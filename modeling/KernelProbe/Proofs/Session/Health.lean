import Mathlib.Data.List.Forall2
import Mathlib.Data.List.Infix
import KernelProbe.Proofs.Session.Completeness
import KernelProbe.Proofs.Session.Thriving

/-!
# No false alarm on a healthy kernel

On a machine that mimics a fresh mock kernel, whatever the filter shuts out, the standard battery
records no failure: a probe that may run passes, unless all probes that it counts on are shut out,
and then it is skipped (`standard_healthy`). A run that the reporter cuts short has recorded the
first probes of the roster so (`HarnessConfig.Clears`).

The health of the kernel goes through the run: each group takes the descriptors and the room that
its probes ask for, and hands the kernel on to the next (`GroupThrives`).
-/

namespace KernelProbe

open Journal
open MockKernel (Healthy serves_append serves_of_kernel)

/-! ## Records -/

/-- The record says of the probe that the filter shut it out, that it passed, or that its setup
failed because no probe that it counts on may run. -/
structure HarnessConfig.FaresWell (c : HarnessConfig) (i : ProbeId) (record : ProbeRecord) :
    Prop where
  group : record.group = i.group
  probe : record.probe = i.name
  shutOut : ¬ c.Allows i → record.outcome = Battery.disabled
  passed : c.Allows i → i.Ready c.Allows → record.outcome = .pass
  skipped : c.Allows i → ¬ i.Ready c.Allows →
    ∃ message, record.outcome = .skipped (.of .setupFailure message none)

theorem HarnessConfig.FaresWell.isFail {c : HarnessConfig} {i : ProbeId} {record : ProbeRecord}
    (h : c.FaresWell i record) : record.outcome.isFail = false := by
  by_cases hallows : c.Allows i
  · by_cases hready : i.Ready c.Allows
    · rw [h.passed hallows hready]
      rfl
    · obtain ⟨message, hskipped⟩ := h.skipped hallows hready
      rw [hskipped]
      rfl
  · rw [h.shutOut hallows]
    rfl

/-- No record of probes that fared well is a failure. -/
theorem isFail_of_faresWell {c : HarnessConfig} {ids : List ProbeId} {records : List ProbeRecord}
    (h : List.Forall₂ c.FaresWell ids records) :
    ∀ record ∈ records, record.outcome.isFail = false := by
  induction h with
  | nil => exact List.forall_mem_nil _
  | cons hwell _ ih => exact List.forall_mem_cons.mpr ⟨hwell.isFail, ih⟩

/-- The records in the journal are those of the first of the probes, which fared well; they are
those of all of them if nothing stopped the part of the run. -/
def HarnessConfig.Clears {α : Type} (c : HarnessConfig) (ids : List ProbeId) (j : Journal)
    (r : Except HarnessError α) : Prop :=
  ∃ done, done <+: ids ∧ List.Forall₂ c.FaresWell done j.records ∧ ∀ a, r = .ok a → done = ids

section

variable {c : HarnessConfig} {ids ids₁ ids₂ : List ProbeId} {j j₁ j₂ : Journal} {e : HarnessError}
  {r : Except HarnessError Unit}

theorem clears_nil (hj : j.records = []) : c.Clears [] j r :=
  ⟨[], List.prefix_rfl, by rw [hj]; exact .nil, fun _ _ => rfl⟩

/-- What is stopped before its first record is cleared. -/
theorem clears_error {α : Type} (hj : j.records = []) :
    c.Clears ids j (.error e : Except HarnessError α) :=
  ⟨[], List.nil_prefix, by rw [hj]; exact .nil, nofun⟩

theorem HarnessConfig.Clears.stopped (h : c.Clears ids₁ j (.error e : Except HarnessError Unit))
    (later : List ProbeId) : c.Clears (ids₁ ++ later) j (.error e : Except HarnessError Unit) := by
  obtain ⟨done, hdone, hwell, -⟩ := h
  exact ⟨done, hdone.trans (List.prefix_append ..), hwell, nofun⟩

theorem HarnessConfig.Clears.append (h₁ : c.Clears ids₁ j₁ (.ok () : Except HarnessError Unit))
    (h₂ : c.Clears ids₂ j₂ r) : c.Clears (ids₁ ++ ids₂) (j₁ ++ j₂) r := by
  obtain ⟨_, -, hwell₁, hall₁⟩ := h₁
  obtain rfl := hall₁ () rfl
  obtain ⟨done, hdone, hwell₂, hall₂⟩ := h₂
  refine ⟨_, (List.prefix_append_right_inj _).mpr hdone, ?_, fun a ha => by rw [hall₂ a ha]⟩
  rw [records_append]
  exact List.rel_append hwell₁ hwell₂

theorem HarnessConfig.Clears.of_records {α : Type} {r' : Except HarnessError α}
    (h : c.Clears ids j₁ r) (hj : j₂.records = j₁.records) (hr : ∀ a, r' = .ok a → r = .ok ()) :
    c.Clears ids j₂ r' := by
  obtain ⟨done, hdone, hwell, hall⟩ := h
  exact ⟨done, hdone, hj ▸ hwell, fun a ha => hall () (hr a ha)⟩

end

namespace Battery

open Staged

variable {C : Type} {c : HarnessConfig} {calls : List Syscall} {group : String} {i : ProbeId}
  {ids : List ProbeId} {P Q : C → MockKernel → Prop} {trial : Trial C} {trials : List (Trial C)}
  {s s' : RunSummary} {context context' : C} {m m' : MockKernel} {j : Journal}
  {r : Except HarnessError Unit}

/-! ## Turns -/

/-- The turn of a probe that fares well records that. -/
theorem Turn.clears (ht : trial.Within calls) (hthrives : Thrives c P i trial Q)
    (hgroup : i.group = group) (h : Turn c.filter group trial s context j r s' context')
    (hinv : P context m) (hserves : m.Serves j m') (hclock : j.Punctual c.joinTimeout) :
    c.Clears [i] j r ∧ (r = .ok () → Q context' m') := by
  have hallows : c.filter.allows group trial.spec.name = true ↔ c.Allows i := by
    rw [HarnessConfig.Allows, hgroup, hthrives.name]
  cases h with
  | shutOut off =>
    obtain rfl : m' = m := hserves
    have hoff : ¬ c.Allows i := by
      rw [← hallows, off]
      exact Bool.false_ne_true
    refine ⟨⟨[i], List.prefix_rfl, .cons ?_ .nil, fun _ _ => rfl⟩,
      fun _ => hthrives.shutOut hoff hinv⟩
    exact ⟨hgroup.symm, hthrives.name, fun _ => rfl, fun on => absurd on hoff,
      fun on => absurd on hoff⟩
  | checkpointRefused on may e => exact ⟨clears_error rfl, nofun⟩
  | beginRefused on e =>
    refine ⟨clears_error (records_of_undivided ?_), nofun⟩
    exact undivided_append.mpr ⟨(checkpointed_silent ..).2, begin_undivided⟩
  | @ran on started own outcome evidence _ ended plays =>
    rw [ran_eq_attended] at hserves hclock ⊢
    obtain ⟨m₁, hattended, hrecord⟩ := serves_append.mp hserves
    obtain rfl : m' = m₁ := hrecord
    have hown : own.Punctual c.joinTimeout :=
      (punctual_append.mp hclock).1.of_subset (own_sublist_attended ..).subset
    have on := hallows.mp on
    obtain ⟨hinv', hfares⟩ := hthrives.ran on hinv plays
      ((serves_of_kernel (kernel_attended ..)).mp hattended) hown
    have hrecords : (attended group trial.spec s started ended own outcome).records = [] :=
      records_of_undivided (attended_undivided group (ht.within plays).reports)
    refine ⟨⟨[i], List.prefix_rfl, ?_, fun _ _ => rfl⟩, fun _ => hinv'⟩
    rw [records_append, hrecords]
    refine .cons ⟨hgroup.symm, hthrives.name, fun hoff => absurd on hoff, fun _ hready => ?_,
      fun _ hnot => ?_⟩ .nil
    · exact (hfares.resolve_right fun h => h.1 hready).2
    · exact (hfares.resolve_left fun h => hnot h.1).2

/-- The turns of probes that fare well one after another record that. -/
theorem turns_clear {p p' : RunSummary × C} (ht : ∀ t ∈ trials, t.Within calls)
    (hthrive : ThriveAll c Q P ids trials) (hgroup : ∀ i ∈ ids, i.group = group)
    (h : Each (execute c.filter group) trials p j r p') (hinv : P p.2 m)
    (hserves : m.Serves j m') (hclock : j.Punctual c.joinTimeout) :
    c.Clears ids j r ∧ (r = .ok () → Q p'.2 m') := by
  induction h generalizing P ids m with
  | done =>
    obtain _ | _ := hthrive
    obtain rfl : m' = m := hserves
    exact ⟨clears_nil rfl, fun _ => hinv⟩
  | stopped first =>
    obtain _ | @⟨_, _, i, is, _, _, hfirst, -⟩ := hthrive
    obtain ⟨hclears, -⟩ := (plays_execute first).clears (ht _ List.mem_cons_self) hfirst
      (hgroup i List.mem_cons_self) hinv hserves hclock
    exact ⟨hclears.stopped is, nofun⟩
  | next first rest ih =>
    obtain _ | @⟨_, _, i, is, _, _, hfirst, hrest⟩ := hthrive
    obtain ⟨m₁, hserves₁, hserves₂⟩ := serves_append.mp hserves
    obtain ⟨hclock₁, hclock₂⟩ := punctual_append.mp hclock
    obtain ⟨hclears, hleft⟩ := (plays_execute first).clears (ht _ List.mem_cons_self) hfirst
      (hgroup i List.mem_cons_self) hinv hserves₁ hclock₁
    obtain ⟨hclears', hleft'⟩ := ih (fun t hmem => ht t (List.mem_cons_of_mem _ hmem)) hrest
      (fun k hk => hgroup k (List.mem_cons_of_mem i hk)) (hleft rfl) hserves₂ hclock₂
    exact ⟨hclears.append hclears', hleft'⟩

/-! ## Groups -/

/-- The probes of a group fare well, from kernels with `A` on, and leave kernels with `B` once the
group is torn down. -/
def GroupThrives (c : HarnessConfig) (A : MockKernel → Prop) (g : Group) (ids : List ProbeId)
    (B : MockKernel → Prop) : Prop :=
  ∃ P Q, (∀ {m}, A m → P g.start m) ∧ ThriveAll c Q P ids g.trials ∧
    ∀ {context m j r context' m'}, Q context m → g.teardown.Plays context j r context' →
      m.Serves j m' → B m'

/-- The probes of groups fare well one group after another. -/
inductive GroupsThrive (c : HarnessConfig) :
    (MockKernel → Prop) → List Group → List (List ProbeId) → Prop
  | nil {A} : GroupsThrive c A [] []
  | cons {A B g ids groups lists} (first : GroupThrives c A g ids B)
    (rest : GroupsThrive c B groups lists) : GroupsThrive c A (g :: groups) (ids :: lists)

variable {A B : MockKernel → Prop} {g : Group}

theorem GroupPart.clears (hg : g.Within calls) (hthrives : GroupThrives c A g ids B)
    (hgroup : ∀ i ∈ ids, i.group = g.name) (h : GroupPart c.filter g s j r s') (hm : A m)
    (hserves : m.Serves j m') (hclock : j.Punctual c.joinTimeout) :
    c.Clears ids j r ∧ (r = .ok () → B m') := by
  obtain ⟨e, rfl, rfl, -⟩ | ⟨probes, teardown, left, _, rfl, turns, tornDown, hteardown⟩ :=
    h.anatomy hg
  · exact ⟨clears_error rfl, nofun⟩
  obtain ⟨P, Q, hstart, hall, hleave⟩ := hthrives
  obtain ⟨m₁, hpreface, hrest⟩ := serves_append.mp hserves
  obtain rfl : m₁ = m := hpreface
  obtain ⟨m₂, hprobes, htorn⟩ := serves_append.mp hrest
  obtain ⟨-, hclock⟩ := punctual_append.mp hclock
  obtain ⟨hclears, hleft⟩ := turns_clear hg.trials hall hgroup turns (hstart hm) hprobes
    (punctual_append.mp hclock).1
  obtain ⟨own, _, hplays, hkernel, -⟩ := plays_tearDown tornDown
  refine ⟨hclears.of_records ?_ fun _ ha => ha, fun hr => ?_⟩
  · rw [records_append, records_append, hteardown, List.append_nil]
    rfl
  · exact hleave (hleft hr) hplays ((serves_of_kernel hkernel).mp htorn)

theorem groups_clear {groups : List Group} {lists : List (List ProbeId)}
    (hgroups : ∀ g ∈ groups, ∃ calls, g.Within calls) (hthrive : GroupsThrive c A groups lists)
    (hgroup : List.Forall₂ (fun g ids => ∀ i ∈ ids, i.group = g.name) groups lists)
    (h : Each (runGroup c.filter) groups s j r s') (hm : A m) (hserves : m.Serves j m')
    (hclock : j.Punctual c.joinTimeout) : c.Clears lists.flatten j r := by
  induction h generalizing A lists m with
  | done =>
    obtain _ | _ := hthrive
    exact clears_nil rfl
  | stopped first =>
    obtain ⟨calls, hg⟩ := hgroups _ List.mem_cons_self
    obtain _ | ⟨hfirst, -⟩ := hthrive
    obtain _ | ⟨hname, -⟩ := hgroup
    exact ((plays_runGroup first).clears hg hfirst hname hm hserves hclock).1.stopped _
  | next first rest ih =>
    obtain ⟨calls, hg⟩ := hgroups _ List.mem_cons_self
    obtain _ | ⟨hfirst, hrest⟩ := hthrive
    obtain _ | ⟨hname, hnames⟩ := hgroup
    obtain ⟨m₁, hserves₁, hserves₂⟩ := serves_append.mp hserves
    obtain ⟨hclock₁, hclock₂⟩ := punctual_append.mp hclock
    obtain ⟨hclears, hleft⟩ := (plays_runGroup first).clears hg hfirst hname hm hserves₁ hclock₁
    exact hclears.append (ih (fun g hmem => hgroups g (List.mem_cons_of_mem _ hmem)) hrest hnames
      (hleft rfl) hserves₂ hclock₂)

/-! ## The standard battery -/

variable {missing existing : ExecRequest} {spare : Nat} {lengths : List UInt64}

/-- A teardown that does nothing leaves the kernel as it is. -/
theorem serves_of_plays_pure {s s' : C} {r : Except Halt Unit}
    (h : Staged.Plays (pure () : Step C Unit) s j r s') (hserves : m.Serves j m') : m' = m := by
  obtain ⟨rfl, -, -⟩ := plays_pure.mp h
  exact hserves

theorem output_thrives : GroupThrives c (Healthy spare lengths) (Output.group c.outputFd)
    [.write, .writev] (Healthy spare lengths) :=
  ⟨_, _, id, Output.group_thrives, fun hm h hserves => serves_of_plays_pure h hserves ▸ hm⟩

theorem identity_thrives (hslots : c.tlsSlots.contains 12 = true)
    (hids : c.threadIdModel = .matchesPid ∨ c.threadIdModel = .unchecked) :
    GroupThrives c (Healthy spare lengths) (Identity.group c.tlsSlots c.threadIdModel)
      [.setThreadArea, .getpid, .gettid, .schedYield] (Healthy spare lengths) :=
  ⟨_, _, fun hm => ⟨hm, .inl rfl⟩, Identity.group_thrives hslots hids,
    fun hm h hserves => serves_of_plays_pure h hserves ▸ hm.1⟩

theorem files_thrives : GroupThrives c (Healthy (spare + 3) lengths) Files.group
    [.openFile, .openAt, .read, .close] (Healthy spare lengths) := by
  refine ⟨_, _, Files.holding_start, Files.group_thrives, fun hm h hserves => ?_⟩
  refine hm.run hserves fun x hx => ?_
  obtain ⟨fd, rfl⟩ := Files.teardown_calls h x hx
  rfl

theorem memory_thrives (hpage : c.pageSize = 0x1000) (hnodup : c.mapLengths.Nodup) :
    GroupThrives c (Healthy spare c.mapLengths) (Memory.group c.mapLengths c.pageSize)
      (.brk :: c.mapLengths.flatMap fun n => [.mmap n, .mincore n, .munmap n])
      (Healthy spare []) := by
  refine ⟨_, _, fun hm => ⟨hm, fun _ _ => rfl⟩, Memory.group_thrives hpage hnodup,
    fun hclear h hserves => ?_⟩
  refine hclear.healthy.run hserves fun x hx => ?_
  obtain ⟨region, rfl⟩ := Memory.teardown_calls h x hx
  rfl

theorem concurrency_thrives : GroupThrives c (Healthy spare lengths)
    (Concurrency.group c.waitTimeout c.joinTimeout) [.futexWait, .futexWake, .clone, .cloneJoin]
    (Healthy spare lengths) := by
  refine ⟨_, _, Concurrency.tracks_start, Concurrency.group_thrives, fun hm h hserves => ?_⟩
  refine hm.run hserves fun x hx => ?_
  rw [← Journal.map_call_trace, (Concurrency.teardown_silent h).1] at hx
  cases hx

theorem system_thrives : GroupThrives c (Healthy spare lengths) Uname.group [.uname]
    (Healthy spare lengths) :=
  ⟨_, _, id, Uname.group_thrives, fun hm h hserves => serves_of_plays_pure h hserves ▸ hm⟩

theorem lifecycle_thrives (hmodel : c.execModel = .spawn)
    (hmissing : missing.path.text ≠ "/usr/statx") (hexisting : existing.path.text = "/usr/statx") :
    GroupThrives c (Healthy (spare + 1) lengths)
      (Lifecycle.group missing existing c.execModel) [.execMissing, .execExisting]
      (Healthy spare lengths) := by
  refine ⟨_, _, fun hm => ⟨hm, rfl⟩, Lifecycle.group_thrives hmodel hmissing hexisting,
    fun hidle h hserves => ?_⟩
  obtain ⟨-, -, ⟨-, rfl, -⟩ | ⟨fd, -, hfd, -⟩⟩ := Lifecycle.plays_closeWitness h
  · exact hserves ▸ hidle.healthy
  · cases hidle.closed.symm.trans hfd

/-- The files group takes three descriptors and the lifecycle group one; the memory group takes the
room for the mappings. -/
theorem thrive_ofRequests (hc : c.Sound missing existing) (hmodel : c.execModel = .spawn)
    (htarget : c.execTarget = "/usr/statx") (hmissing : c.missingExecPath ≠ "/usr/statx")
    (hpage : c.pageSize = 0x1000) (hslots : c.tlsSlots.contains 12 = true)
    (hids : c.threadIdModel = .matchesPid ∨ c.threadIdModel = .unchecked) :
    GroupsThrive c (Healthy 4 c.mapLengths) (ofRequests c missing existing).groups
      (roster c.mapLengths) := by
  have hpath : missing.path.text ≠ "/usr/statx" := by
    rwa [(HarnessConfig.missingExecRequest_texts hc.missing).1]
  have hpath' : existing.path.text = "/usr/statx" :=
    (HarnessConfig.execRequest_texts hc.existing).1.trans htarget
  exact .cons output_thrives (.cons (identity_thrives hslots hids) (.cons files_thrives
    (.cons (memory_thrives hpage hc.distinct) (.cons concurrency_thrives (.cons system_thrives
      (.cons (lifecycle_thrives hmodel hpath hpath') .nil))))))

variable {runId : String} {startedAt : Int64} {result : Except HarnessError RunSummary}

/-- A run of probes that fare well records that. -/
theorem RunCourse.clears (hc : c.Sound missing existing)
    (hthrive : GroupsThrive c A (ofRequests c missing existing).groups (roster c.mapLengths))
    (h : RunCourse (ofRequests c missing existing) runId startedAt j result) (hm : A m)
    (hserves : m.Serves j m') (hclock : j.Punctual c.joinTimeout) :
    c.Clears (roster c.mapLengths).flatten j result := by
  have hgroup : List.Forall₂ (fun g ids => ∀ i ∈ ids, i.group = g.name)
      (ofRequests c missing existing).groups (roster c.mapLengths) :=
    groups_ofRequests.imp fun _ _ h => h.2
  cases h with
  | refused e => exact clears_error rfl
  | stopped groups =>
    obtain ⟨m₁, hpreface, hgroups⟩ := serves_append.mp hserves
    obtain rfl : m₁ = m := hpreface
    have hclears := groups_clear (within_ofRequests hc) hthrive hgroup groups hm hgroups
      (punctual_append.mp hclock).2
    exact hclears.of_records (by rw [records_append]; rfl) nofun
  | @ended parts s groups answer =>
    obtain ⟨m₁, hpreface, hrest⟩ := serves_append.mp hserves
    obtain rfl : m₁ = m := hpreface
    obtain ⟨m₂, hgroups, -⟩ := serves_append.mp hrest
    obtain ⟨-, hclock⟩ := punctual_append.mp hclock
    have hclears := groups_clear (within_ofRequests hc) hthrive hgroup groups hm hgroups
      (punctual_append.mp hclock).1
    refine hclears.of_records ?_ fun _ _ => rfl
    rw [records_append, records_append]
    exact List.append_nil parts.records

/-- On a machine that mimics a fresh mock kernel, with a configuration that suits it and a clock
that reaches as far as the deadline of the join, the standard battery raises no false alarm: under
every filter and with every reporter, the records are those of the first of the roster's probes, and
no record is a failure. A probe that may run passes; only if the mapping, the child or the
descriptors that it counts on come from probes that are shut out, it is skipped. If the reporter
takes every event, there is a record for every probe of the roster. -/
theorem standard_healthy {κ ρ : Type} {kernel : Kernel κ} {R : κ → MockKernel → Prop}
    (hmimics : kernel.Mimics R) (reporter : Reporter ρ) {k : κ} (r : ρ) (hk : R k {})
    {c : HarnessConfig} {b : Battery} (hb : standard c = .ok b) (hmodel : c.execModel = .spawn)
    (htarget : c.execTarget = "/usr/statx") (hpage : c.pageSize = 0x1000)
    (hslots : c.tlsSlots.contains 12 = true)
    (hids : c.threadIdModel = .matchesPid ∨ c.threadIdModel = .unchecked)
    (hroom : 0x7f0000000000 + MockKernel.footprints c.mapLengths < UInt64.size)
    (runId : String) (startedAt : Int64)
    (hclock : ((b.run runId startedAt).run kernel reporter k r).journal.Punctual c.joinTimeout) :
    let run := (b.run runId startedAt).run kernel reporter k r
    c.Clears (roster c.mapLengths).flatten run.journal run.result ∧
      (∀ record ∈ run.journal.records, record.outcome.isFail = false) ∧
      ((∀ event r, (reporter.receive event r).1 = .ok ()) → ∃ summary,
        run.result = .ok summary ∧ summary.failed = 0 ∧
        List.Forall₂ c.FaresWell (roster c.mapLengths).flatten summary.records) := by
  intro run
  have hmissing : c.missingExecPath ≠ "/usr/statx" := htarget ▸ (paths_ne hb).symm
  obtain ⟨missing, existing, hc, rfl⟩ := standard_eq_ok hb
  obtain ⟨m', hserves⟩ := MockKernel.run_serves hmimics reporter
    ((ofRequests c missing existing).run runId startedAt) r hk
  have hcourse : RunCourse (ofRequests c missing existing) runId startedAt run.journal run.result :=
    plays_run (Program.run_plays ..)
  have hclears := hcourse.clears hc
    (thrive_ofRequests hc hmodel htarget hmissing hpage hslots hids)
    (MockKernel.healthy_start (by decide) hroom) hserves hclock
  obtain ⟨done, hdone, hwell, hall⟩ := hclears
  have hfail := isFail_of_faresWell hwell
  refine ⟨⟨done, hdone, hwell, hall⟩, hfail, fun htakes => ?_⟩
  obtain ⟨summary, hresult, -, hrecords, hfailed, -⟩ := hcourse.completed (within_ofRequests hc)
    (Program.run_accepted kernel reporter htakes _ k r)
  obtain rfl := hall summary hresult
  refine ⟨summary, hresult, ?_, hrecords ▸ hwell⟩
  rw [hfailed, List.countP_eq_zero]
  simpa using hfail

/-- With the mapping of one length shut out, the default battery passes all other probes but the two
of that length, on the scripted kernel without a script. -/
theorem standard_healthy_filtered :
    let c : HarnessConfig := { filter := { skip := ["mmap[0x8000]"] } }
    ∃ b, standard c = .ok b ∧
      let run := (b.run "run" 0).run ScriptedKernel.machine recording {} []
      run.journal.Punctual c.joinTimeout ∧ ∃ summary, run.result = .ok summary ∧
        summary.failed = 0 ∧
        List.Forall₂ c.FaresWell (roster c.mapLengths).flatten summary.records := by
  refine ⟨_, rfl, ?clock, (standard_healthy ScriptedKernel.mimics recording [] ⟨rfl, rfl⟩ rfl rfl
    rfl rfl (by decide) (.inl rfl) (by decide) "run" 0 ?clock).2.2 fun _ _ => rfl⟩
  decide +kernel

end Battery

end KernelProbe
