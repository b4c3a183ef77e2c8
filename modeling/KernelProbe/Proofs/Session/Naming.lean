import Mathlib.Data.List.Forall2
import KernelProbe.Proofs.Session.Completeness

/-!
# What names stand for

A filter and a look-up in a summary go by names alone. In the plan of a standard battery no two
probes share a name and no probe has the name of a group, so that a name stands for a whole group,
for one probe, or for nothing (`Designates`). `standard_names` draws from this which entries a
filter enables, and that a complete run has the record of every entry under the entry's name.
-/

namespace KernelProbe

/-- The name in a filter stands for the entry: it is the name of its group or of its probe. -/
def PlanEntry.AnswersTo (entry : PlanEntry) (name : String) : Prop :=
  entry.group = name ∨ entry.spec.name = name

instance (entry : PlanEntry) (name : String) : Decidable (entry.AnswersTo name) :=
  inferInstanceAs (Decidable (_ ∨ _))

/-- A list names a probe if one of its names stands for it. -/
theorem ProbeFilter.names_iff {names : List String} {entry : PlanEntry} :
    ProbeFilter.names names entry.group entry.spec.name = true ↔
      ∃ name ∈ names, entry.AnswersTo name := by
  simp only [ProbeFilter.names, List.any_eq_true, Bool.or_eq_true, beq_iff_eq, PlanEntry.AnswersTo,
    @eq_comm _ entry.group, @eq_comm _ entry.spec.name]

/-- The filter lets a probe run that a name of `only` stands for, if there is one, and no name of
`skip`. -/
theorem ProbeFilter.allows_iff {filter : ProbeFilter} {entry : PlanEntry} :
    filter.allows entry.group entry.spec.name = true ↔
      (filter.only = [] ∨ ∃ name ∈ filter.only, entry.AnswersTo name) ∧
        ∀ name ∈ filter.skip, ¬ entry.AnswersTo name := by
  rw [allows, Bool.and_eq_true, Bool.or_eq_true, List.isEmpty_iff, Bool.not_eq_true',
    ← Bool.not_eq_true, names_iff, names_iff, not_exists]
  simp only [not_and]

/-! ## Names apart -/

namespace ProbeId

/-- The names of the groups. -/
def groupNames : List String := [Output.groupName, Identity.groupName, Files.groupName,
  Memory.groupName, Concurrency.groupName, Uname.groupName, Lifecycle.groupName]

/-- A name with a bracket is not that of a group. -/
theorem lengthName_not_mem_groupNames (call : String) (length : UInt64) :
    Memory.lengthName call length ∉ groupNames := by
  intro hmem
  have hplain : ∀ name ∈ groupNames, '[' ∉ name.toList := by decide
  refine hplain _ hmem ?_
  rw [toList_lengthName]
  simp

/-- No probe has the name of a group. -/
theorem name_not_mem_groupNames (i : ProbeId) : i.name ∉ groupNames := by
  cases i with
  | mmap length => exact lengthName_not_mem_groupNames "mmap" length
  | mincore length => exact lengthName_not_mem_groupNames "mincore" length
  | munmap length => exact lengthName_not_mem_groupNames "munmap" length
  | _ => decide

end ProbeId

namespace Battery

variable {c : HarnessConfig} {missing existing : ExecRequest}

theorem map_probe_plan : (ofRequests c missing existing).plan.map (·.spec.name)
    = (roster c.mapLengths).flatten.map ProbeId.name := by
  have hpairs : (ofRequests c missing existing).plan.map
      (fun entry => (entry.group, entry.spec.name)) = _ := map_name_plan
  simpa [Function.comp_def] using congrArg (List.map Prod.snd) hpairs

/-- No two probes of a standard battery share a name. -/
theorem nodup_probes (hc : c.Sound missing existing) :
    ((ofRequests c missing existing).plan.map (·.spec.name)).Nodup := by
  rw [map_probe_plan]
  exact (nodup_roster hc.distinct).map fun _ _ => ProbeId.name_inj

/-- No probe of a standard battery has the name of a group. -/
theorem probe_not_mem_groupNames {entry : PlanEntry}
    (h : entry ∈ (ofRequests c missing existing).plan) :
    entry.spec.name ∉ (ofRequests c missing existing).groupNames := by
  have hmem := List.mem_map_of_mem (f := (·.spec.name)) h
  rw [map_probe_plan] at hmem
  obtain ⟨i, -, hi⟩ := List.mem_map.mp hmem
  exact hi ▸ i.name_not_mem_groupNames

/-! ## Designations -/

/-- What a name stands for in a battery, with the entries of the plan that this comes to. -/
inductive Designates (b : Battery) (name : String) : List PlanEntry → Prop
  /-- A group, with all its entries. -/
  | group {g : Group} (mem : g ∈ b.groups) (named : g.name = name) :
      b.Designates name (g.specs.map (entry b.filter g.name))
  /-- One probe. -/
  | probe {entry : PlanEntry} (mem : entry ∈ b.plan) (named : entry.spec.name = name) :
      b.Designates name [entry]
  /-- Nothing. -/
  | nothing : b.Designates name []

section

variable {A : Type*} {key : A → String} {as : List A} {a : A}

/-- In a list whose members have different keys, one member alone has its key. -/
theorem exists_append_of_nodup (h : (as.map key).Nodup) (ha : a ∈ as) :
    ∃ front back, as = front ++ a :: back ∧
      (∀ x ∈ front, key x ≠ key a) ∧ ∀ x ∈ back, key x ≠ key a := by
  obtain ⟨front, back, rfl⟩ := List.append_of_mem ha
  rw [List.map_append, List.map_cons, List.nodup_middle, List.nodup_cons, ← List.map_append] at h
  refine ⟨front, back, rfl, List.forall_mem_append.mp fun x hx heq => h.1 ?_⟩
  exact heq ▸ List.mem_map_of_mem hx

theorem filter_eq_singleton (h : (as.map key).Nodup) (ha : a ∈ as) :
    as.filter (key · = key a) = [a] := by
  obtain ⟨front, back, rfl, hfront, hback⟩ := exists_append_of_nodup h ha
  have hnone : ∀ xs : List A, (∀ x ∈ xs, key x ≠ key a) → xs.filter (key · = key a) = [] :=
    fun xs hxs => List.filter_eq_nil_iff.mpr fun x hx => by simpa using hxs x hx
  rw [List.filter_append, hnone front hfront, List.filter_cons_of_pos (by simp), hnone back hback]
  rfl

theorem find?_eq_some_of_nodup (h : (as.map key).Nodup) (ha : a ∈ as) :
    as.find? (key · == key a) = some a := by
  obtain ⟨front, back, rfl, hfront, -⟩ := exists_append_of_nodup h ha
  exact List.find?_eq_some_iff_append.mpr
    ⟨beq_self_eq_true _, front, back, rfl, fun x hx => by simpa using hfront x hx⟩

end

variable {b : Battery}

theorem mem_groupNames_of_mem_plan {entry : PlanEntry} (h : entry ∈ b.plan) :
    entry.group ∈ b.groupNames := by
  obtain ⟨g, hg, hentry⟩ := List.mem_flatMap.mp h
  obtain ⟨spec, -, rfl⟩ := List.mem_map.mp hentry
  exact List.mem_map_of_mem hg

/-- The entries of a plan under the name of a group are those of the group. -/
theorem filter_group (hgroups : b.groupNames.Nodup) {g : Group} (hg : g ∈ b.groups) :
    b.plan.filter (·.group = g.name) = g.specs.map (entry b.filter g.name) := by
  obtain ⟨front, back, hsplit, hfront, hback⟩ := exists_append_of_nodup hgroups hg
  have hnone : ∀ groups : List Group, (∀ h ∈ groups, h.name ≠ g.name) →
      (groups.flatMap fun h => h.specs.map (entry b.filter h.name)).filter (·.group = g.name)
        = [] := by
    intro groups hapart
    refine List.filter_eq_nil_iff.mpr fun line hline => ?_
    obtain ⟨h, hh, hline⟩ := List.mem_flatMap.mp hline
    obtain ⟨spec, -, rfl⟩ := List.mem_map.mp hline
    simp [entry, hapart h hh]
  have hall : (g.specs.map (entry b.filter g.name)).filter (·.group = g.name)
      = g.specs.map (entry b.filter g.name) := by
    refine List.filter_eq_self.mpr fun line hline => ?_
    obtain ⟨spec, -, rfl⟩ := List.mem_map.mp hline
    simp [entry]
  calc b.plan.filter (·.group = g.name)
      = (b.groups.flatMap fun h => h.specs.map (entry b.filter h.name)).filter
          (·.group = g.name) := rfl
    _ = g.specs.map (entry b.filter g.name) := by
        rw [hsplit, List.flatMap_append, List.flatMap_cons, List.filter_append, List.filter_append,
          hnone front hfront, hnone back hback, hall, List.nil_append, List.append_nil]

/-- If no two probes share a name, no two groups do, and no probe has the name of a group, then a
name stands for a group, a probe or nothing. -/
theorem designates (hprobes : (b.plan.map (·.spec.name)).Nodup) (hgroups : b.groupNames.Nodup)
    (hapart : ∀ entry ∈ b.plan, entry.spec.name ∉ b.groupNames) (name : String) :
    b.Designates name (b.plan.filter (·.AnswersTo name)) := by
  by_cases hgroup : name ∈ b.groupNames
  · obtain ⟨g, hg, rfl⟩ := List.mem_map.mp hgroup
    have hanswers : ∀ entry ∈ b.plan, entry.AnswersTo g.name ↔ entry.group = g.name :=
      fun entry hentry => or_iff_left fun h => hapart entry hentry (h ▸ hgroup)
    rw [List.filter_congr fun entry hentry => decide_eq_decide.mpr (hanswers entry hentry),
      filter_group hgroups hg]
    exact .group hg rfl
  have hanswers : ∀ entry ∈ b.plan, entry.AnswersTo name ↔ entry.spec.name = name :=
    fun entry hentry => or_iff_right fun h => hgroup (h ▸ mem_groupNames_of_mem_plan hentry)
  rw [List.filter_congr fun entry hentry => decide_eq_decide.mpr (hanswers entry hentry)]
  by_cases hprobe : name ∈ b.plan.map (·.spec.name)
  · obtain ⟨entry, hentry, rfl⟩ := List.mem_map.mp hprobe
    rw [filter_eq_singleton hprobes hentry]
    exact .probe hentry rfl
  · rw [List.filter_eq_nil_iff.mpr fun entry hentry h =>
      hprobe (List.mem_map.mpr ⟨entry, hentry, by simpa using h⟩)]
    exact .nothing

/-! ## Look-ups -/

/-- A run that ends in a summary leaves a record there for each line of the plan. -/
theorem RunCourse.matched {runId : String} {startedAt : Int64} {j : Journal}
    {result : Except HarnessError RunSummary} {summary : RunSummary}
    (hgroups : ∀ g ∈ b.groups, ∃ calls, g.Within calls) (h : RunCourse b runId startedAt j result)
    (hresult : result = .ok summary) : List.Forall₂ PlanEntry.Matches b.plan summary.records := by
  cases h with
  | refused e => cases hresult
  | stopped groups => cases hresult
  | ended groups answer =>
    obtain ⟨rfl, hmatch⟩ := groups_matched hgroups groups rfl
    rcases answer with e | ⟨⟩
    · cases hresult
    · cases hresult
      rw [RunSummary.records_foldl_push, List.nil_append]
      exact hmatch

/-- If no two lines of a plan name one probe, a line's record is found under the name of its
probe. -/
theorem record?_of_matches {plan : List PlanEntry} {summary : RunSummary}
    (hprobes : (plan.map (·.spec.name)).Nodup)
    (h : List.Forall₂ PlanEntry.Matches plan summary.records) :
    List.Forall₂ (fun entry record =>
        entry.Matches record ∧ summary.record? entry.spec.name = some record)
      plan summary.records := by
  have hnames : summary.records.map (·.probe) = plan.map (·.spec.name) := by
    simpa [Function.comp_def] using congrArg (List.map (·.2.1)) (names_of_matches h)
  rw [← hnames] at hprobes
  obtain ⟨hlength, hzip⟩ := List.forall₂_iff_zip.mp h
  refine List.forall₂_iff_zip.mpr ⟨hlength, fun {entry record} hpair => ⟨hzip hpair, ?_⟩⟩
  rw [← (hzip hpair).probe]
  exact find?_eq_some_of_nodup hprobes (List.of_mem_zip hpair).2

/-! ## The standard battery -/

/-- In the plan of a standard battery no two probes share a name, and none has the name of a group.
A name thus stands for one group, for one probe or for nothing; those entries are enabled that a
name of `only` stands for, or all if there is no such name, and that no name of `skip` stands for;
and a run that comes to its end on a kernel and a reporter of any kind has the record of each entry
under the name of its probe. -/
theorem standard_names {κ ρ : Type} (kernel : Kernel κ) (reporter : Reporter ρ) (k : κ) (r : ρ)
    {c : HarnessConfig} {b : Battery} (hb : standard c = .ok b) (runId : String)
    (startedAt : Int64) :
    (b.plan.map (·.spec.name)).Nodup ∧ (∀ entry ∈ b.plan, entry.spec.name ∉ b.groupNames) ∧
      (∀ name, b.Designates name (b.plan.filter (·.AnswersTo name))) ∧
      (∀ entry ∈ b.plan, entry.enabled = true ↔
        (c.filter.only = [] ∨ ∃ name ∈ c.filter.only, entry.AnswersTo name) ∧
          ∀ name ∈ c.filter.skip, ¬ entry.AnswersTo name) ∧
      ∀ summary, ((b.run runId startedAt).run kernel reporter k r).result = .ok summary →
        List.Forall₂ (fun entry record =>
            entry.Matches record ∧ summary.record? entry.spec.name = some record)
          b.plan summary.records := by
  obtain ⟨missing, existing, hc, rfl⟩ := standard_eq_ok hb
  have hprobes := nodup_probes hc
  have hapart : ∀ entry ∈ (ofRequests c missing existing).plan, _ :=
    fun entry => probe_not_mem_groupNames
  refine ⟨hprobes, hapart, designates hprobes nodup_names hapart, ?_, ?_⟩
  · intro entry hentry
    rw [enabled_of_mem_plan hentry]
    exact ProbeFilter.allows_iff
  · intro summary hresult
    have hcourse := plays_run (Program.run_plays kernel reporter
      ((ofRequests c missing existing).run runId startedAt) k r)
    exact record?_of_matches hprobes (hcourse.matched (within_ofRequests hc) hresult)

/-- A configuration for the memory group without one of its probes, whose name is that of another
up to a digit. -/
def oneShutOut : HarnessConfig :=
  { mapLengths := [0x8000, 0x800], filter := { only := ["memory"], skip := ["mmap[0x800]"] } }

theorem standard_names_oneShutOut : ∃ b summary, standard oneShutOut = .ok b ∧
    (b.plan.filter (·.enabled)).map (·.spec.name) = ["brk", "mmap[0x8000]", "mincore[0x8000]",
      "munmap[0x8000]", "mincore[0x800]", "munmap[0x800]"] ∧
    b.Designates "mmap[0x800]" (b.plan.filter (·.AnswersTo "mmap[0x800]")) ∧
    ((b.run "run" 0).run Host.Machine.kernel recording Host.Machine.start []).result = .ok summary ∧
    List.Forall₂ (fun entry record => summary.record? entry.spec.name = some record) b.plan
      summary.records := by
  obtain ⟨b, hb⟩ : ∃ b, standard oneShutOut = .ok b := ⟨_, rfl⟩
  have henabled : ∀ b, standard oneShutOut = .ok b →
      (b.plan.filter (·.enabled)).map (·.spec.name) = ["brk", "mmap[0x8000]", "mincore[0x8000]",
        "munmap[0x8000]", "mincore[0x800]", "munmap[0x800]"] := by
    intro b hb
    cases hb
    decide +kernel
  obtain ⟨missing, existing, hc, heq⟩ := standard_eq_ok hb
  obtain ⟨summary, hresult, -⟩ := (plays_run (Program.run_plays Host.Machine.kernel recording
    (b.run "run" 0) Host.Machine.start [])).completed (heq ▸ within_ofRequests hc)
    (Program.run_accepted Host.Machine.kernel recording (fun _ _ => rfl) _ _ _)
  obtain ⟨-, -, hnames, -, hrecords⟩ :=
    standard_names Host.Machine.kernel recording Host.Machine.start [] hb "run" 0
  exact ⟨b, summary, hb, henabled b hb, hnames _, hresult,
    (hrecords summary hresult).imp fun _ _ h => h.2⟩

end Battery

end KernelProbe
