import KernelProbe.Host.Machine
import KernelProbe.Report.AuditLog
import KernelProbe.Proofs.Session.Records
import KernelProbe.Proofs.Session.Roster

/-!
# Completeness of a run

If the reporter takes every event, a run comes to its end, and its records are those of the plan,
one for each entry and in the order of the plan (`RunCourse.completed`). A record says that its
probe was shut out exactly if the plan does; nothing the kernel did led to such a record
(`RunCourse.leadingTo_disabled`, which holds for every reporter).
-/

namespace KernelProbe

/-! ## Records of a plan -/

/-- The record of a probe that was shut out: it is skipped as disabled, without evidence or time. -/
def ProbeRecord.IsShutOut (record : ProbeRecord) : Prop :=
  (∃ d, record.outcome = .skipped d ∧ d.kind = .disabled) ∧ record.evidence = .empty ∧
    record.elapsedMicros = 0

/-- The record is one of the plan's entry. -/
structure PlanEntry.Matches (entry : PlanEntry) (record : ProbeRecord) : Prop where
  group : record.group = entry.group
  probe : record.probe = entry.spec.name
  syscalls : record.syscalls = entry.spec.syscalls
  shutOut : record.IsShutOut ↔ entry.enabled = false

namespace RunSummary

@[simp] theorem records_foldl_push (s : RunSummary) (records : List ProbeRecord) :
    (records.foldl push s).records = s.records ++ records := by
  induction records generalizing s with
  | nil => simp
  | cons record records ih => simp [ih]

/-- A summary counts the records that are failures. -/
theorem failed_foldl_push (s : RunSummary) (records : List ProbeRecord) :
    (records.foldl push s).failed = s.failed + records.countP (·.outcome.isFail) := by
  induction records generalizing s with
  | nil => simp
  | cons record records ih =>
    rw [List.foldl_cons, ih, List.countP_cons]
    unfold push
    cases record.outcome with
    | fail d => simp [Outcome.isFail]; omega
    | _ => simp [Outcome.isFail]

end RunSummary

namespace Battery

open Journal Staged

variable {C : Type} {calls : List Syscall} {filter : ProbeFilter} {group : String} {trial : Trial C}
  {s s' : RunSummary} {c c' : C} {j : Journal} {r : Except HarnessError Unit}

/-- The entry of a probe in a plan. -/
def entry (filter : ProbeFilter) (group : String) (spec : ProbeSpec) : PlanEntry :=
  ⟨group, spec, filter.allows group spec.name⟩

theorem isShutOut_shutOut (group : String) (spec : ProbeSpec) : (shutOut group spec).IsShutOut :=
  ⟨⟨_, rfl, rfl⟩, rfl, rfl⟩

/-! ## Turns -/

/-- A turn that comes to its end adds the record of its probe. -/
theorem Turn.matched (ht : trial.Within calls) (h : Turn filter group trial s c j (.ok ()) s' c') :
    ∃ record, j.records = [record] ∧ s' = s.push record ∧
      (entry filter group trial.spec).Matches record := by
  obtain ⟨-, ⟨e, heq⟩, -⟩ | ⟨front, record, rfl, rfl, hfront, hcase⟩ := h.recorded ht
  · cases heq
  refine ⟨record, ?_, rfl, ?_⟩
  · rw [records_append, records_of_undivided hfront]
    rfl
  rcases hcase with ⟨off, -, rfl, -⟩ | ⟨on, own, outcome, evidence, elapsed, plays, rfl, -⟩
  · exact ⟨rfl, rfl, rfl, iff_of_true (isShutOut_shutOut group trial.spec) off⟩
  · refine ⟨rfl, rfl, rfl, iff_of_false ?_ (by simp [entry, on])⟩
    rintro ⟨⟨d, hskipped, hkind⟩, -⟩
    exact ht.kind plays d hskipped hkind

/-- A turn stops the run only if the reporter refuses an event. -/
theorem Turn.eq_ok (h : Turn filter group trial s c j r s' c') (accepted : j.Accepted) :
    r = .ok () := by
  cases h with
  | shutOut off => exact accepted _ r List.mem_cons_self
  | checkpointRefused on may e =>
    have hrefused := accepted (.checkpoint s) (.error e) (by simp)
    cases hrefused
  | beginRefused on e =>
    have hrefused := accepted (.beginProbe group trial.spec) (.error e) (by simp)
    cases hrefused
  | ran on plays =>
    exact (accepted_append.mp accepted).2 _ r (List.mem_cons_of_mem _
      (List.mem_cons_of_mem _ List.mem_cons_self))

/-- Nothing leads to the record of a probe that the filter shuts out. -/
theorem Turn.leadingTo_disabled {g n : String} (hoff : filter.allows g n = false)
    (ht : trial.Within calls) (h : Turn filter group trial s c j r s' c') :
    leadingTo g n [] j = [] ∧ (r = .ok () → pending [] j = []) := by
  obtain ⟨-, ⟨e, rfl⟩, -, hundivided, -⟩ | ⟨front, record, rfl, -, hfront, hcase⟩ := h.recorded ht
  · exact ⟨leadingTo_of_records_eq_nil (records_of_undivided hundivided), by simp⟩
  refine ⟨?_, fun _ => pending_record ..⟩
  rw [leadingTo_record hfront]
  split
  next hname =>
    rcases hcase with ⟨-, rfl, -⟩ | ⟨on, _, _, _, _, -, rfl, -⟩
    · rfl
    · obtain ⟨rfl, rfl⟩ := hname
      exact absurd on (by simpa [ProbeRecord.of] using hoff)
  next => rfl

/-! ## Groups -/

section

variable {trials : List (Trial C)} {p p' : RunSummary × C}

theorem turns_matched (ht : ∀ t ∈ trials, t.Within calls)
    (h : Each (execute filter group) trials p j r p') (hr : r = .ok ()) :
    p'.1 = j.records.foldl RunSummary.push p.1 ∧
      List.Forall₂ PlanEntry.Matches (trials.map fun t => entry filter group t.spec) j.records := by
  induction h with
  | done => exact ⟨rfl, .nil⟩
  | stopped first => cases hr
  | next first rest ih =>
    -- the first turn adds its record, and the summary that it leaves is where the others start
    obtain ⟨record, hrecord, hpush, hmatch⟩ :=
      (plays_execute first).matched (ht _ List.mem_cons_self)
    obtain ⟨hfold, hrest⟩ := ih (fun t hmem => ht t (List.mem_cons_of_mem _ hmem)) hr
    rw [records_append, hrecord]
    exact ⟨by rw [hfold, hpush]; rfl, .cons hmatch hrest⟩

theorem turns_leadingTo_disabled {g n : String} (hoff : filter.allows g n = false)
    (ht : ∀ t ∈ trials, t.Within calls) (h : Each (execute filter group) trials p j r p') :
    leadingTo g n [] j = [] := by
  induction h with
  | done => rfl
  | stopped first =>
    exact ((plays_execute first).leadingTo_disabled hoff (ht _ List.mem_cons_self)).1
  | next first rest ih =>
    obtain ⟨hnone, hpending⟩ :=
      (plays_execute first).leadingTo_disabled hoff (ht _ List.mem_cons_self)
    rw [leadingTo_append, hnone, hpending rfl, ih fun t hmem => ht t (List.mem_cons_of_mem _ hmem)]
    rfl

end

/-- Parts of a run stop it only if the reporter refuses an event, if each does. -/
theorem eq_ok_of_accepted {σ : Type} {A : Type*} {f : A → Session σ PUnit} {as : List A} {p p' : σ}
    (hf : ∀ {a p j r p'}, Plays (f a) p j r p' → Journal.Accepted j → r = .ok ())
    (h : Each f as p j r p') (accepted : j.Accepted) : r = .ok () := by
  induction h with
  | done => rfl
  | stopped first => exact hf first accepted
  | next first rest ih => exact ih (accepted_append.mp accepted).2

variable {g : Group}

theorem GroupPart.eq_ok (h : GroupPart filter g s j r s') (accepted : j.Accepted) : r = .ok () := by
  cases h with
  | refused e =>
    have hrefused := accepted (.beginGroup g.name) (.error e) (by simp)
    cases hrefused
  | ran opened turns tornDown =>
    refine eq_ok_of_accepted (fun first haccepted => (plays_execute first).eq_ok haccepted) turns ?_
    exact (accepted_append.mp (accepted_append.mp accepted).2).1

/-- The part of a group that comes to its end adds the records of its entries. -/
theorem GroupPart.matched (hg : g.Within calls) (h : GroupPart filter g s j (.ok ()) s') :
    s' = j.records.foldl RunSummary.push s ∧
      List.Forall₂ PlanEntry.Matches (g.specs.map (entry filter g.name)) j.records := by
  obtain ⟨_, -, ⟨⟩, -⟩ | ⟨probes, teardown, left, _, rfl, turns, -, hteardown⟩ := h.anatomy hg
  have hrecords : records (groupPreface g (.ok ()) ++ (probes ++ teardown)) = probes.records := by
    rw [records_append, records_append, hteardown, List.append_nil]
    rfl
  rw [hrecords, Group.specs, List.map_map]
  exact turns_matched hg.trials turns rfl

theorem GroupPart.leadingTo_disabled {group probe : String}
    (hoff : filter.allows group probe = false)
    (hg : g.Within calls) (h : GroupPart filter g s j r s') (seen : Journal) :
    leadingTo group probe seen j = [] := by
  obtain ⟨e, rfl, -⟩ | ⟨probes, teardown, left, _, rfl, turns, -, hteardown⟩ := h.anatomy hg
  · rfl
  -- the begin of the group leaves nothing pending
  show leadingTo group probe [] (probes ++ teardown) = []
  rw [leadingTo_append, turns_leadingTo_disabled hoff hg.trials turns,
    leadingTo_of_records_eq_nil hteardown]
  rfl

/-! ## Runs -/

variable {b : Battery} {runId : String} {startedAt : Int64}
    {result : Except HarnessError RunSummary}

theorem groups_matched {groups : List Group} (hgroups : ∀ g ∈ groups, ∃ calls, g.Within calls)
    (h : Each (runGroup filter) groups s j r s') (hr : r = .ok ()) :
    s' = j.records.foldl RunSummary.push s ∧
      List.Forall₂ PlanEntry.Matches (groups.flatMap fun g => g.specs.map (entry filter g.name))
        j.records := by
  induction h with
  | done => exact ⟨rfl, .nil⟩
  | stopped first => cases hr
  | next first rest ih =>
    obtain ⟨calls, hg⟩ := hgroups _ List.mem_cons_self
    obtain ⟨hfold₁, hmatch₁⟩ := (plays_runGroup first).matched hg
    obtain ⟨hfold₂, hmatch₂⟩ := ih (fun g hmem => hgroups g (List.mem_cons_of_mem _ hmem)) hr
    rw [records_append, List.flatMap_cons]
    exact ⟨by rw [hfold₂, hfold₁, List.foldl_append], List.rel_append hmatch₁ hmatch₂⟩

theorem groups_leadingTo_disabled {groups : List Group} {group probe : String}
    (hoff : filter.allows group probe = false) (hgroups : ∀ g ∈ groups, ∃ calls, g.Within calls)
    (h : Each (runGroup filter) groups s j r s') (seen : Journal) :
    leadingTo group probe seen j = [] := by
  induction h generalizing seen with
  | done => rfl
  | stopped first =>
    obtain ⟨calls, hg⟩ := hgroups _ List.mem_cons_self
    exact (plays_runGroup first).leadingTo_disabled hoff hg seen
  | next first rest ih =>
    obtain ⟨calls, hg⟩ := hgroups _ List.mem_cons_self
    rw [leadingTo_append, (plays_runGroup first).leadingTo_disabled hoff hg seen,
      ih (fun g hmem => hgroups g (List.mem_cons_of_mem _ hmem))]
    rfl

/-- A run whose reporter takes every event has the parts of all its groups, and hands out the
summary that they leave. -/
theorem RunCourse.ended_of_accepted (h : RunCourse b runId startedAt j result)
    (accepted : j.Accepted) :
    ∃ (parts : Journal) (s : RunSummary),
      Each (runGroup b.filter) b.groups { runId, startedAt } parts (.ok ()) s ∧
      j = b.preface runId startedAt (.ok ()) ++
        (parts ++ closing { s with complete := true } (.ok ())) ∧
      result = .ok { s with complete := true } := by
  cases h with
  | refused e =>
    have hrefused := accepted (.beginRun ⟨runId, startedAt, b.execModel⟩) (.error e)
      (by simp [preface])
    cases hrefused
  | stopped groups =>
    have hok := eq_ok_of_accepted (fun first haccepted => (plays_runGroup first).eq_ok haccepted)
      groups (accepted_append.mp accepted).2
    cases hok
  | @ended parts s groups answer =>
    -- the answer to the last event decides whether the summary is handed out
    obtain ⟨-, hclosing⟩ := accepted_append.mp (accepted_append.mp accepted).2
    obtain rfl : answer = .ok () := hclosing _ answer (List.mem_cons_of_mem _ List.mem_cons_self)
    exact ⟨parts, s, groups, rfl, rfl⟩

/-- A run whose reporter takes every event comes to its end with the records of the plan. -/
theorem RunCourse.completed (hgroups : ∀ g ∈ b.groups, ∃ calls, g.Within calls)
    (h : RunCourse b runId startedAt j result) (accepted : j.Accepted) :
    ∃ summary, result = .ok summary ∧ summary.complete = true ∧ summary.records = j.records ∧
      summary.failed = j.records.countP (·.outcome.isFail) ∧
      List.Forall₂ PlanEntry.Matches b.plan j.records := by
  obtain ⟨parts, s, groups, rfl, rfl⟩ := h.ended_of_accepted accepted
  obtain ⟨rfl, hmatch⟩ := groups_matched hgroups groups rfl
  have hrecords : records (b.preface runId startedAt (.ok ()) ++ (parts ++ closing
      { parts.records.foldl RunSummary.push { runId, startedAt } with complete := true } (.ok ())))
      = parts.records := by
    rw [records_append, records_append]
    exact List.append_nil parts.records
  rw [hrecords]
  refine ⟨_, rfl, rfl, ?_, ?_, hmatch⟩
  · simp
  · simp [RunSummary.failed_foldl_push]

/-- Nothing the kernel does leads to the record of a probe that the filter shuts out. -/
theorem RunCourse.leadingTo_disabled {group probe : String}
    (hoff : b.filter.allows group probe = false) (hgroups : ∀ g ∈ b.groups, ∃ calls, g.Within calls)
    (h : RunCourse b runId startedAt j result) : leadingTo group probe [] j = [] := by
  cases h with
  | refused e => rfl
  | stopped groups =>
    rw [leadingTo_append, groups_leadingTo_disabled hoff hgroups groups]
    rfl
  | ended groups answer =>
    rw [leadingTo_append, leadingTo_append, groups_leadingTo_disabled hoff hgroups groups]
    rfl

/-! ## The standard battery -/

theorem enabled_of_mem_plan {entry : PlanEntry} (h : entry ∈ b.plan) :
    entry.enabled = b.filter.allows entry.group entry.spec.name := by
  obtain ⟨g, -, hentry⟩ := List.mem_flatMap.mp h
  obtain ⟨spec, -, rfl⟩ := List.mem_map.mp hentry
  rfl

theorem names_of_matches {plan : List PlanEntry} {records : List ProbeRecord}
    (h : List.Forall₂ PlanEntry.Matches plan records) :
    records.map (fun record => (record.group, record.probe, record.syscalls))
      = plan.map (fun entry => (entry.group, entry.spec.name, entry.spec.syscalls)) := by
  induction h with
  | nil => rfl
  | cons hmatch _ ih => simp only [List.map_cons, ih, hmatch.group, hmatch.probe, hmatch.syscalls]

/-- The exit status tells whether a failure counts and there is one. -/
theorem exitStatus_eq_one {summary : RunSummary} {failOnError : Bool}
    (h : summary.failed = summary.records.countP (·.outcome.isFail)) :
    summary.exitStatus failOnError = 1 ↔
      failOnError = true ∧ ∃ record ∈ summary.records, record.outcome.isFail = true := by
  rw [← List.countP_pos_iff, ← h, RunSummary.exitStatus, RunSummary.hasFailures]
  by_cases hfails : failOnError = true ∧ 0 < summary.failed
  · simp [hfails.1, hfails.2]
  · rw [if_neg (by simpa using hfails)]
    exact iff_of_false (by decide) hfails

/-- If the reporter takes every event, the standard battery comes to its end on every kernel, and
its records are those of its plan: a record for each entry and none twice, marked as shut out
exactly where the plan does. A probe that is shut out has no dealings with the kernel. -/
theorem standard_complete {κ ρ : Type} (kernel : Kernel κ) (reporter : Reporter ρ) (k : κ) (r : ρ)
    (takes : ∀ event r, (reporter.receive event r).1 = .ok ()) {c : HarnessConfig} {b : Battery}
    (hb : standard c = .ok b) (runId : String) (startedAt : Int64) :
    ∃ summary, ((b.run runId startedAt).run kernel reporter k r).result = .ok summary ∧
      summary.complete = true ∧
      summary.records.map (fun record => (record.group, record.probe, record.syscalls))
        = b.plan.map (fun entry => (entry.group, entry.spec.name, entry.spec.syscalls)) ∧
      (summary.records.map fun record => (record.group, record.probe)).Nodup ∧
      List.Forall₂ (fun entry record => record.IsShutOut ↔ entry.enabled = false) b.plan
        summary.records ∧
      (∀ entry ∈ b.plan, entry.enabled = false →
        leadingTo entry.group entry.spec.name []
          ((b.run runId startedAt).run kernel reporter k r).journal = []) ∧
      ∀ failOnError, summary.exitStatus failOnError = 1 ↔
        failOnError = true ∧ ∃ record ∈ summary.records, record.outcome.isFail = true := by
  obtain ⟨missing, existing, hc, rfl⟩ := standard_eq_ok hb
  have hgroups := within_ofRequests hc
  have hcourse := plays_run (Program.run_plays kernel reporter
    ((ofRequests c missing existing).run runId startedAt) k r)
  obtain ⟨summary, hresult, hcomplete, hrecords, hfailed, hmatch⟩ := hcourse.completed hgroups
    (Program.run_accepted kernel reporter takes _ k r)
  rw [← hrecords] at hmatch hfailed
  -- the summary lists what was reported, and what was reported are the records of the plan
  have hnames := names_of_matches hmatch
  refine ⟨summary, hresult, hcomplete, hnames, ?_, hmatch.imp fun _ _ h => h.shutOut, ?_,
    fun failOnError => exitStatus_eq_one hfailed⟩
  · have hplan : summary.records.map (fun record => (record.group, record.probe))
        = (ofRequests c missing existing).plan.map fun entry => (entry.group, entry.spec.name) := by
      simpa [Function.comp_def] using congrArg (List.map fun x => (x.1, x.2.1)) hnames
    rw [hplan]
    exact nodup_plan hc
  · intro entry hentry hoff
    exact hcourse.leadingTo_disabled (enabled_of_mem_plan hentry ▸ hoff) hgroups

/-- A run of the default battery on the modelled machine comes to its end. -/
theorem standard_complete_default : ∃ b summary, standard {} = .ok b ∧
    ((b.run "run" 0).run Host.Machine.kernel recording Host.Machine.start []).result = .ok summary ∧
    summary.complete = true := by
  obtain ⟨summary, hresult, hcomplete, -⟩ := standard_complete (c := {}) Host.Machine.kernel
    recording
    Host.Machine.start [] (fun _ _ => rfl) rfl "run" 0
  exact ⟨_, summary, rfl, hresult, hcomplete⟩

end Battery

end KernelProbe
