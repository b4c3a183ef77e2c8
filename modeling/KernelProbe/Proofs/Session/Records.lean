import KernelProbe.Proofs.Probe.Repertoire
import KernelProbe.Proofs.Session.Anatomy

/-!
# Records and what led to them

`Journal.leadingTo group probe` picks out of a journal the dealings with the kernel that led to the
record of a probe: all those between the record before it, or the begin of the group, and the
record. For a probe that ran these are its own, for a probe that was shut out there are none
(`Turn.recorded`, `leadingTo_record`).

`Journal.Every Q past j` says of each entry of `j`, which follows the journal `past`, that `Q` holds
of what precedes the entry and the entry.
-/

namespace KernelProbe

/-! ## Dealings before a record -/

/-- Whether the event stands between the turns of probes: a record, or the begin of a group. -/
def ReportEvent.divides : ReportEvent → Bool
  | .record _ | .beginGroup _ => true
  | _ => false

/-- The dealings with the kernel since the last dividing event, one entry later. -/
def Entry.gather (seen : Journal) (e : Entry) : Journal :=
  match e.request with
  | .report event => if event.divides then [] else seen
  | q => if q.toKernel then seen ++ [e] else seen

/-- Whether the entry is a record of the probe. -/
def Entry.records (group probe : String) (e : Entry) : Bool :=
  match e.request with
  | .report (.record record) => record.group == group && record.probe == probe
  | _ => false

namespace Journal

/-- The dealings with the kernel since the last dividing event, a journal later. -/
def pending (seen j : Journal) : Journal := j.foldl Entry.gather seen

/-- The dealings with the kernel that led to the records of a probe. -/
def leadingTo (group probe : String) (seen : Journal) : Journal → Journal
  | [] => []
  | e :: j =>
    (if e.records group probe then seen else []) ++ leadingTo group probe (e.gather seen) j

/-- The records that were reported. -/
def records (j : Journal) : List ProbeRecord :=
  j.reports.filterMap fun
    | .record record => some record
    | _ => none

/-- No dividing event is reported. -/
def Undivided (j : Journal) : Prop := ∀ event ∈ j.reports, event.divides = false

variable {group probe : String} {seen j j₁ j₂ : Journal}

theorem pending_append : pending seen (j₁ ++ j₂) = pending (pending seen j₁) j₂ :=
  List.foldl_append

theorem leadingTo_append :
    leadingTo group probe seen (j₁ ++ j₂)
      = leadingTo group probe seen j₁ ++ leadingTo group probe (pending seen j₁) j₂ := by
  induction j₁ generalizing seen with
  | nil => rfl
  | cons e j₁ ih =>
    rw [List.cons_append, leadingTo, leadingTo, ih, List.append_assoc]
    rfl

theorem reports_cons (e : Entry) : reports (e :: j) = e.report?.toList ++ j.reports := by
  unfold reports
  cases h : e.report? <;> simp [h]

@[simp] theorem records_append : records (j₁ ++ j₂) = j₁.records ++ j₂.records := by
  simp [records]

theorem records_of_reports_eq_nil (h : j.reports = []) : j.records = [] := by rw [records, h]; rfl

theorem undivided_append : Undivided (j₁ ++ j₂) ↔ j₁.Undivided ∧ j₂.Undivided := by
  simp only [Undivided, reports_append, List.forall_mem_append]

theorem undivided_of_reports_eq_nil (h : j.reports = []) : j.Undivided := by
  intro event hevent
  rw [h] at hevent
  cases hevent

/-- Up to a dividing event, all dealings with the kernel are gathered. -/
theorem pending_of_undivided (h : j.Undivided) : pending seen j = seen ++ j.kernel := by
  induction j generalizing seen with
  | nil => simp [pending]
  | cons e j ih =>
    rw [Undivided, reports_cons, List.forall_mem_append] at h
    obtain ⟨q, answer⟩ := e
    show pending (Entry.gather seen ⟨q, answer⟩) j = _
    rw [ih h.2]
    cases q with
    | report event =>
      have hevent : event.divides = false := h.1 event List.mem_cons_self
      simp [Entry.gather, hevent, Request.toKernel]
    | _ => simp [Entry.gather, Request.toKernel]

/-- A record is a dividing event. -/
theorem records_of_undivided (h : j.Undivided) : j.records = [] := by
  rw [records, List.filterMap_eq_nil_iff]
  intro event hevent
  have hdivides := h event hevent
  cases event with
  | record record => cases hdivides
  | _ => rfl

theorem mem_records {record : ProbeRecord} :
    record ∈ j.records ↔
      ∃ past answer future, j = past ++ ⟨.report (.record record), answer⟩ :: future := by
  constructor
  · intro h
    obtain ⟨event, hevent, heq⟩ := List.mem_filterMap.mp h
    obtain ⟨⟨q, answer⟩, he, hreport⟩ := List.mem_filterMap.mp hevent
    cases q with
    | report event' =>
      cases hreport
      cases event <;> cases heq
      obtain ⟨past, future, rfl⟩ := List.append_of_mem he
      exact ⟨past, answer, future, rfl⟩
    | _ => cases hreport
  · rintro ⟨past, answer, future, rfl⟩
    simp [records, reports_cons, Entry.report?]

/-- Without a record, nothing led to one. -/
theorem leadingTo_of_records_eq_nil (h : j.records = []) : leadingTo group probe seen j = [] := by
  induction j generalizing seen with
  | nil => rfl
  | cons e j ih =>
    have hj : records j = [] := by
      rw [records, reports_cons, List.filterMap_append] at h
      exact (List.append_eq_nil_iff.mp h).2
    rw [leadingTo, ih hj, List.append_nil]
    obtain ⟨q, answer⟩ := e
    cases q with
    | report event =>
      cases event with
      | record record => simp [records, reports_cons, Entry.report?] at h
      | _ => rfl
    | _ => rfl

/-- The dealings before a record led to it, and to no record of another probe. -/
theorem leadingTo_record {record : ProbeRecord} {answer : Except HarnessError Unit}
    (h : j.Undivided) :
    leadingTo group probe [] (j ++ [⟨.report (.record record), answer⟩])
      = if record.group = group ∧ record.probe = probe then j.kernel else [] := by
  rw [leadingTo_append, leadingTo_of_records_eq_nil (records_of_undivided h),
    pending_of_undivided h]
  simp [leadingTo, Entry.records]

theorem pending_record (seen j : Journal) (record : ProbeRecord)
    (answer : Except HarnessError Unit) :
    pending seen (j ++ [⟨.report (.record record), answer⟩]) = [] := by
  rw [pending_append]
  rfl

/-! ## Every entry of a journal -/

/-- Of every entry, `Q` holds with what precedes it. -/
def Every (Q : Journal → Entry → Prop) (past j : Journal) : Prop :=
  ∀ before e after, j = before ++ e :: after → Q (past ++ before) e

variable {Q : Journal → Entry → Prop} {past : Journal}

theorem every_append (h₁ : Every Q past j₁) (h₂ : Every Q (past ++ j₁) j₂) :
    Every Q past (j₁ ++ j₂) := by
  intro before e after h
  -- the entry stands in the second part, or in the first with a part `mid` that begins with it
  rcases List.append_eq_append_iff.mp h with ⟨mid, rfl, hj₂⟩ | ⟨mid, hj₁, hj₂⟩
  · rw [← List.append_assoc]
    exact h₂ mid e after hj₂
  · rcases mid with _ | ⟨e', mid⟩
    · rw [List.append_nil] at hj₁
      subst hj₁
      simpa using h₂ [] e after hj₂.symm
    · obtain ⟨rfl, rfl⟩ := List.cons.inj hj₂
      exact h₁ before e mid hj₁

theorem every_singleton {e : Entry} (h : Q past e) : Every Q past [e] := by
  intro before e' after heq
  rcases before with _ | ⟨_, before⟩
  · obtain ⟨rfl, -⟩ := List.cons.inj heq
    rwa [List.append_nil]
  · simp at heq

/-- What is said of records alone holds where there is no record. -/
theorem every_of_records_eq_nil
    (hQ : ∀ past e, (∀ record answer, e = ⟨.report (.record record), answer⟩ → False) → Q past e)
    (h : j.records = []) : Every Q past j := by
  rintro before e after rfl
  refine hQ _ _ ?_
  rintro record answer rfl
  simp [records, reports_cons, Entry.report?] at h

end Journal

/-! ## Turns and teardowns -/

namespace Battery

open Journal Staged

variable {C : Type} {calls : List Syscall} {filter : ProbeFilter} {group : String} {trial : Trial C}
  {s s' : RunSummary} {c c' : C} {j : Journal} {r : Except HarnessError Unit}

theorem checkpointed_silent (spec : ProbeSpec) (s : RunSummary) :
    (checkpointed spec s).kernel = [] ∧ (checkpointed spec s).Undivided := by
  unfold checkpointed
  split
  · refine ⟨rfl, fun event hevent => ?_⟩
    obtain rfl := List.mem_singleton.mp hevent
    rfl
  · exact ⟨rfl, undivided_of_reports_eq_nil rfl⟩

theorem begin_undivided {group : String} {spec : ProbeSpec} {answer : Except HarnessError Unit} :
    Undivided [⟨.report (.beginProbe group spec), answer⟩] := by
  intro event hevent
  obtain rfl := List.mem_singleton.mp hevent
  rfl

/-- The entries of the turn of a probe that ran, up to its record. -/
def attended (group : String) (spec : ProbeSpec) (s : RunSummary) (started ended : Instant)
    (own : Journal) (outcome : Outcome) : Journal :=
  checkpointed spec s ++ [⟨.report (.beginProbe group spec), .ok ()⟩] ++ [⟨.clock, started⟩] ++
    own ++
    [⟨.clock, ended⟩, verdictEntry spec.name outcome]

theorem own_sublist_attended (group : String) (spec : ProbeSpec) (s : RunSummary)
    (started ended : Instant) (own : Journal) (outcome : Outcome) :
    own.Sublist (attended group spec s started ended own outcome) := by
  unfold attended
  exact (List.sublist_append_right ..).trans (List.sublist_append_left ..)

/-- The turn of a probe that ran ends with its record. -/
theorem ran_eq_attended (group : String) (spec : ProbeSpec) (s : RunSummary)
    (started ended : Instant) (own : Journal) (outcome : Outcome) (e : Entry) :
    checkpointed spec s ++ ⟨.report (.beginProbe group spec), .ok ()⟩ :: ⟨.clock, started⟩ :: own ++
        [⟨.clock, ended⟩, verdictEntry spec.name outcome, e]
      = attended group spec s started ended own outcome ++ [e] := by
  simp [attended]

theorem silent_verdict (ended : Instant) (probe : String) (outcome : Outcome) :
    Silent [⟨.clock, ended⟩, verdictEntry probe outcome] := by
  cases outcome <;> exact ⟨rfl, rfl⟩

/-- A probe that ran has all the dealings with the kernel that its turn has. -/
theorem kernel_attended (group : String) (spec : ProbeSpec) (s : RunSummary)
    (started ended : Instant)
    (own : Journal) (outcome : Outcome) :
    (attended group spec s started ended own outcome).kernel = own.kernel := by
  -- neither the checkpoint nor the verdict deals with the kernel
  have hkernel := (silent_verdict ended spec.name outcome).1
  have hkernel₀ := (checkpointed_silent spec s).1
  simp [attended, hkernel, hkernel₀, Request.toKernel]

theorem attended_undivided (group : String) {spec : ProbeSpec} {started ended : Instant}
    {own : Journal} {outcome : Outcome} (hown : own.reports = []) :
    (attended group spec s started ended own outcome).Undivided := by
  simp only [attended, undivided_append]
  exact ⟨⟨⟨⟨(checkpointed_silent spec s).2, begin_undivided⟩, undivided_of_reports_eq_nil rfl⟩,
    undivided_of_reports_eq_nil hown⟩,
    undivided_of_reports_eq_nil (silent_verdict ended spec.name outcome).2⟩

/-- A turn either breaks off before its probe runs, or ends with the record of its probe. -/
theorem Turn.recorded (ht : trial.Within calls) (h : Turn filter group trial s c j r s' c') :
    (filter.allows group trial.spec.name = true ∧ (∃ e, r = .error e) ∧ j.kernel = [] ∧
        j.Undivided ∧ s' = s ∧ c' = c) ∨
      ∃ (front : Journal) (record : ProbeRecord),
        j = front ++ [⟨.report (.record record), r⟩] ∧ s' = kept s record r ∧ front.Undivided ∧
        ((filter.allows group trial.spec.name = false ∧ front = [] ∧
            record = Battery.shutOut group trial.spec ∧ c' = c) ∨
          filter.allows group trial.spec.name = true ∧ ∃ own outcome evidence elapsed,
            (trial.run c).Plays own ((outcome, evidence), c') ∧
            record = .of group trial.spec outcome evidence elapsed ∧
            front.kernel = own.kernel) := by
  cases h with
  | shutOut off answer =>
    exact .inr ⟨[], _, rfl, rfl, undivided_of_reports_eq_nil rfl, .inl ⟨off, rfl, rfl, rfl⟩⟩
  | checkpointRefused on may e =>
    refine .inl ⟨on, ⟨e, rfl⟩, rfl, fun event hevent => ?_, rfl, rfl⟩
    obtain rfl := List.mem_singleton.mp hevent
    rfl
  | beginRefused on e =>
    obtain ⟨hkernel, hundivided⟩ := checkpointed_silent trial.spec s
    refine .inl ⟨on, ⟨e, rfl⟩, ?_, undivided_append.mpr ⟨hundivided, begin_undivided⟩, rfl, rfl⟩
    rw [kernel_append, hkernel]
    rfl
  | @ran on started own outcome evidence _ ended plays _ =>
    exact .inr ⟨attended group trial.spec s started ended own outcome, _, ran_eq_attended .., rfl,
      attended_undivided group (ht.within plays).reports,
      .inr ⟨on, own, outcome, evidence, _, plays, rfl, kernel_attended ..⟩⟩

/-- The log entries for a teardown that a fault ended: that of the boundary, and that of the run. -/
def teardownLog (group : String) : Except Halt Unit → Journal
  | .error (.panicked fault) =>
    [⟨.log
      { level := .error, target := "sysprobe_core::application::panic_guard",
        message := "Panic caught at probe boundary",
        fields := [("scope", .text group), ("panic_msg", .text fault.message)] }, ()⟩,
     ⟨.log
      { level := .warn, target := "sysprobe_core::application::runner",
        message := "Group teardown panicked",
        fields := [("group", .text group), ("panic_msg", .text fault.message)] }, ()⟩]
  | _ => []

theorem silent_teardownLog (group : String) (r : Except Halt Unit) :
    (teardownLog group r).Silent := by
  rcases r with (e | fault) | ⟨⟩ <;> exact ⟨rfl, rfl⟩

/-- A teardown takes the group's step to its end, and logs a fault of it. -/
theorem plays_tearDown_iff {step : Step C Unit} : (tearDown group step c).Plays j c' ↔
    ∃ own r, step.Plays c own r c' ∧ j = own ++ teardownLog group r := by
  rw [tearDown, Program.plays_bind]
  constructor
  · rintro ⟨_, ⟨_, context⟩, j₂, rfl, h₁, h₂⟩
    obtain ⟨r, own, hstep, rfl, rfl⟩ := Step.plays_guarded.mp h₁
    rcases r with (e | fault) | ⟨⟩
    · obtain ⟨rfl, rfl⟩ := h₂
      exact ⟨own, _, hstep, List.append_assoc ..⟩
    · simp only [Step.caught, Program.plays_bind, Program.plays_log, Program.plays_pure] at h₂
      obtain ⟨_, _, _, rfl, rfl, rfl, rfl⟩ := h₂
      exact ⟨own, _, hstep, List.append_assoc ..⟩
    · obtain ⟨rfl, rfl⟩ := h₂
      exact ⟨own, _, hstep, List.append_assoc ..⟩
  · rintro ⟨own, r, hstep, rfl⟩
    have hguarded : ((Step.guarded group step).run c).Plays (own ++ Step.faultLog group r)
        (Step.caught r, c') := Step.plays_guarded.mpr ⟨r, own, hstep, rfl, rfl⟩
    rcases r with (e | fault) | ⟨⟩
    · exact ⟨_, _, [], (List.append_assoc own [] []).symm, hguarded, rfl, rfl⟩
    · refine ⟨_, _, _, (List.append_assoc own [_] [_]).symm, hguarded, ?_⟩
      simp only [Step.caught, Program.plays_bind, Program.plays_log, Program.plays_pure]
      exact ⟨_, (), [], rfl, rfl, rfl, trivial⟩
    · exact ⟨_, _, [], (List.append_assoc own [] []).symm, hguarded, rfl, rfl⟩

/-- A teardown deals with the kernel, and reports, as the group's step does. -/
theorem plays_tearDown {step : Step C Unit} (h : (tearDown group step c).Plays j c') :
    ∃ own r, step.Plays c own r c' ∧ j.kernel = own.kernel ∧ j.reports = own.reports := by
  obtain ⟨own, r, hstep, rfl⟩ := plays_tearDown_iff.mp h
  obtain ⟨hkernel, hreports⟩ := silent_teardownLog group r
  refine ⟨own, r, hstep, ?_, ?_⟩
  · rw [kernel_append, hkernel, List.append_nil]
  · rw [reports_append, hreports, List.append_nil]

/-- The entries of a group's part before the turns of its probes. -/
def groupPreface (g : Group) (answer : Except HarnessError Unit) : Journal :=
  [groupNote g, ⟨.report (.beginGroup g.name), answer⟩]

/-- The part of a group that stays within system calls: it is refused, or has the turns of its
probes and a teardown without records. -/
theorem GroupPart.anatomy {g : Group} (hg : g.Within calls) (h : GroupPart filter g s j r s') :
    (∃ e, j = groupPreface g (.error e) ∧ r = .error e ∧ s' = s) ∨
      ∃ (probes teardown : Journal) (left c : g.Context),
        j = groupPreface g (.ok ()) ++ (probes ++ teardown) ∧
        Turns filter g.name g.trials s g.start probes r s' left ∧
        (tearDown g.name g.teardown left).Plays teardown c ∧ teardown.records = [] := by
  cases h with
  | refused e => exact .inl ⟨e, rfl, rfl, rfl⟩
  | @ran opening probes _ _ left teardown c opened turns tornDown =>
    rw [hg.opening] at opened
    obtain ⟨rfl, -⟩ := opened
    obtain ⟨own, _, hown, -, hreports⟩ := plays_tearDown tornDown
    refine .inr ⟨probes, teardown, left, c, rfl, turns, tornDown, ?_⟩
    exact records_of_reports_eq_nil (hreports.trans (hg.teardown hown).reports)

/-! ## Every record of a run -/

variable {Q : Journal → Entry → Prop} {g : Group} {b : Battery} {past : Journal} {runId : String}
  {startedAt : Int64} {result : Except HarnessError RunSummary}

/-- What holds of the records of some turns, behind any journal, holds of those of all of them. -/
theorem turns_every {trials : List (Trial C)} {p p' : RunSummary × C}
    (hquiet : ∀ {past j}, j.records = [] → Every Q past j)
    (hturns : ∀ t ∈ trials, ∀ {s d past j r s' d'}, Turn filter group t s d j r s' d' →
      Every Q past j)
    (h : Each (execute filter group) trials p j r p') : ∀ past, Every Q past j := by
  refine h.preserves (fun ts _ => ∀ t ∈ ts, ∀ {s d past j r s' d'},
    Turn filter group t s d j r s' d' → Every Q past j) (fun _ j _ => ∀ past, Every Q past j)
    (fun _ _ => hquiet rfl) ?_ ?_ hturns
  · exact fun h₁ h₂ past => every_append (h₁ past) (h₂ _)
  · intro t ts p j r p' hturns hplays
    obtain ⟨hfirst, hothers⟩ := List.forall_mem_cons.mp hturns
    exact ⟨fun _ => hfirst (plays_execute hplays), hothers⟩

/-- What holds of the records of its turns holds of the records of a group. -/
theorem GroupPart.every (hg : g.Within calls)
    (hquiet : ∀ {past j}, j.records = [] → Every Q past j)
    (hturns : ∀ t ∈ g.trials, ∀ {s d past j r s' d'}, Turn filter g.name t s d j r s' d' →
      Every Q past j)
    (h : GroupPart filter g s j r s') : Every Q past j := by
  obtain ⟨e, rfl, -⟩ | ⟨probes, teardown, _, _, rfl, turns, -, hteardown⟩ := h.anatomy hg
  · exact hquiet rfl
  · exact every_append (hquiet rfl)
      (every_append (turns_every hquiet hturns turns _) (hquiet hteardown))

/-- What holds of the records of all turns holds of the records of a run. -/
theorem RunCourse.every (hwithin : ∀ g ∈ b.groups, ∃ calls, g.Within calls)
    (hquiet : ∀ {past j}, j.records = [] → Every Q past j)
    (hturns : ∀ g ∈ b.groups, ∀ t ∈ g.trials, ∀ {s d past j r s' d'},
      Turn b.filter g.name t s d j r s' d' → Every Q past j)
    (h : RunCourse b runId startedAt j result) : Every Q [] j := by
  have hgroups {j r s s'} (h : Each (runGroup b.filter) b.groups s j r s') :
      ∀ past, Every Q past j := by
    refine h.preserves (fun gs _ => ∀ g ∈ gs, g ∈ b.groups) (fun _ j _ => ∀ past, Every Q past j)
      (fun _ _ => hquiet rfl) (fun h₁ h₂ past => every_append (h₁ past) (h₂ _)) ?_ fun _ => id
    intro g gs s j r s' hmem hplays
    obtain ⟨hg, hothers⟩ := List.forall_mem_cons.mp hmem
    obtain ⟨calls, hcalls⟩ := hwithin g hg
    exact ⟨fun _ => (plays_runGroup hplays).every hcalls hquiet (hturns g hg), hothers⟩
  cases h with
  | refused e => exact hquiet rfl
  | stopped groups => exact every_append (hquiet rfl) (hgroups groups _)
  | ended groups answer =>
    exact every_append (hquiet rfl) (every_append (hgroups groups _) (hquiet rfl))

end Battery

end KernelProbe
