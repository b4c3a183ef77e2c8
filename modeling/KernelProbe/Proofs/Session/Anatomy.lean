import KernelProbe.Session.Battery
import KernelProbe.Proofs.Program.Steps

/-!
# The anatomy of a run

A run of a battery is made of the parts of its groups, a group's part of the turns of its probes and
of its teardown. `Turn` has the four courses that the turn of a probe can take, `GroupPart` the two
that the part of a group can take, and `RunCourse` those of a whole run; `plays_execute`,
`plays_runGroup` and `plays_run` say that there are no others, whatever the kernel and the reporter
answer.
-/

namespace KernelProbe.Battery

open Staged

/-! ## Parts of a session -/

/-- The log entry for an event of a run. -/
def noteEntry (level : LogLevel) (message : String)
    (fields : List (String × LogValue) := []) : Entry :=
  ⟨.log { level, target := logTarget, message, fields }, ()⟩

section

variable {σ : Type} {s s' : σ} {j : Journal}

@[simp] theorem plays_note {level : LogLevel} {message : String}
    {fields : List (String × LogValue)} {r : Except HarnessError Unit} :
    Plays (note level message fields) s j r s' ↔
      j = [noteEntry level message fields] ∧ r = .ok () ∧ s' = s := by
  simp only [note, plays_lift, Program.plays_log]
  constructor
  · rintro ⟨⟨⟩, h⟩
    exact h
  · intro h
    exact ⟨(), h⟩

@[simp] theorem plays_report {event : ReportEvent} {r : Except HarnessError Unit} :
    Plays (report event) s j r s' ↔ j = [⟨.report event, r⟩] ∧ s' = s := by
  simp only [report, plays_bind, plays_lift, Program.plays_request (.report event)]
  constructor
  · rintro (⟨_, ⟨_, _, h, _⟩, _⟩ | ⟨_, a, _, _, rfl, ⟨_, rfl, h, rfl⟩, hrest⟩)
    · cases h
    · cases h
      rcases a with e | ⟨⟩
      · obtain ⟨rfl, rfl, rfl⟩ := plays_throw.mp hrest
        exact ⟨rfl, rfl⟩
      · obtain ⟨rfl, rfl, rfl⟩ := plays_pure.mp hrest
        exact ⟨rfl, rfl⟩
  · rintro ⟨rfl, rfl⟩
    refine .inr ⟨_, r, s', [], rfl, ⟨r, rfl, rfl, rfl⟩, ?_⟩
    rcases r with e | ⟨⟩ <;> simp

theorem plays_note_bind {α : Type} {level : LogLevel} {message : String}
    {fields : List (String × LogValue)} {f : Unit → Session σ α} {r : Except HarnessError α} :
    Plays (note level message fields >>= f) s j r s' ↔
      ∃ j' : Journal, j = noteEntry level message fields :: j' ∧ Plays (f ()) s j' r s' := by
  rw [note, plays_lift_bind]
  constructor
  · rintro ⟨_, _, j', rfl, hlog, h⟩
    obtain rfl := (Program.plays_log ..).mp hlog
    exact ⟨j', rfl, h⟩
  · rintro ⟨j', rfl, h⟩
    exact ⟨_, (), j', rfl, (Program.plays_log ..).mpr rfl, h⟩

/-- What follows a report follows if the reporter takes the event. -/
theorem plays_report_bind {α : Type} {event : ReportEvent} {f : Unit → Session σ α}
    {r : Except HarnessError α} :
    Plays (report event >>= f) s j r s' ↔
      (∃ e, j = [⟨.report event, .error e⟩] ∧ r = .error e ∧ s' = s) ∨
        ∃ j' : Journal, j = ⟨.report event, .ok ()⟩ :: j' ∧ Plays (f ()) s j' r s' := by
  simp only [plays_bind, plays_report]
  constructor
  · rintro (⟨e, ⟨rfl, rfl⟩, rfl⟩ | ⟨_, ⟨⟩, _, j', rfl, ⟨rfl, rfl⟩, h⟩)
    · exact .inl ⟨e, rfl, rfl, rfl⟩
    · exact .inr ⟨j', rfl, h⟩
  · rintro (⟨e, rfl, rfl, rfl⟩ | ⟨j', rfl, h⟩)
    · exact .inl ⟨e, ⟨rfl, rfl⟩, rfl⟩
    · exact .inr ⟨_, (), s, j', rfl, ⟨rfl, rfl⟩, h⟩

/-- The log entry for the verdict on a probe. -/
def verdictEntry (probe : String) : Outcome → Entry
  | .pass => noteEntry .info "PASS" [("probe", .text probe)]
  | .fail d => noteEntry .warn "FAIL" [("probe", .text probe), ("diagnosis", .text d.text)]
  | .skipped d => noteEntry .warn "SKIPPED" [("probe", .text probe), ("diagnosis", .text d.text)]

@[simp] theorem plays_noteVerdict {probe : String} {outcome : Outcome}
    {r : Except HarnessError Unit} :
    Plays (noteVerdict probe outcome) s j r s' ↔
      j = [verdictEntry probe outcome] ∧ r = .ok () ∧ s' = s := by
  cases outcome <;> exact plays_note

end

/-! ## Turns -/

/-- A summary after the reporter's answer to a record event. -/
def kept (s : RunSummary) (record : ProbeRecord) : Except HarnessError Unit → RunSummary
  | .ok () => s.push record
  | .error _ => s

@[simp] theorem plays_record {C : Type} {record : ProbeRecord} {s s' : RunSummary} {c c' : C}
    {j : Journal} {r : Except HarnessError Unit} :
    Plays (Battery.record record) (s, c) j r (s', c') ↔
      j = [⟨.report (.record record), r⟩] ∧ s' = kept s record r ∧ c' = c := by
  simp only [Battery.record, plays_bind, plays_report, plays_modify, Prod.mk.injEq]
  constructor
  · rintro (⟨e, ⟨rfl, rfl, rfl⟩, rfl⟩ | ⟨_, _, _, _, rfl, ⟨rfl, rfl⟩, rfl, rfl, rfl, rfl⟩)
    · exact ⟨rfl, rfl, rfl⟩
    · exact ⟨rfl, rfl, rfl⟩
  · rintro ⟨rfl, rfl, rfl⟩
    rcases r with e | ⟨⟩
    · exact .inl ⟨e, ⟨rfl, rfl, rfl⟩, rfl⟩
    · exact .inr ⟨_, (), (s, c'), [], rfl, ⟨rfl, rfl⟩, rfl, rfl, rfl, rfl⟩

/-- The record of a probe that the filter shuts out. -/
def shutOut (group : String) (spec : ProbeSpec) : ProbeRecord :=
  .of group spec disabled .empty .zero

/-- The log entry before a checkpoint. -/
def checkpointNote (spec : ProbeSpec) : Entry :=
  noteEntry .info "Probe may not return, emitting checkpoint" [("probe", .text spec.name)]

/-- What precedes the begin of a probe: a checkpoint, if the probe may not return. -/
def checkpointed (spec : ProbeSpec) (s : RunSummary) : Journal :=
  if spec.mayNotReturn then [checkpointNote spec, ⟨.report (.checkpoint s), .ok ()⟩] else []

variable {C : Type}

/-- The courses of the turn of a probe, from a summary and a context. -/
inductive Turn (filter : ProbeFilter) (group : String) (trial : Trial C) (s : RunSummary) (c : C) :
    Journal → Except HarnessError Unit → RunSummary → C → Prop
  /-- The filter shuts the probe out, which is recorded. -/
  | shutOut (off : filter.allows group trial.spec.name = false)
      (answer : Except HarnessError Unit) :
      Turn filter group trial s c [⟨.report (.record (Battery.shutOut group trial.spec)), answer⟩]
        answer (kept s (Battery.shutOut group trial.spec) answer) c
  /-- The reporter refuses the checkpoint. -/
  | checkpointRefused (on : filter.allows group trial.spec.name = true)
      (may : trial.spec.mayNotReturn = true) (e : HarnessError) :
      Turn filter group trial s c [checkpointNote trial.spec, ⟨.report (.checkpoint s), .error e⟩]
        (.error e) s c
  /-- The reporter refuses the begin of the probe. -/
  | beginRefused (on : filter.allows group trial.spec.name = true) (e : HarnessError) :
      Turn filter group trial s c
        (checkpointed trial.spec s ++ [⟨.report (.beginProbe group trial.spec), .error e⟩])
        (.error e) s c
  /-- The probe runs and its verdict is recorded. -/
  | ran (on : filter.allows group trial.spec.name = true) {started own outcome evidence c' ended}
      (plays : (trial.run c).Plays own ((outcome, evidence), c'))
      (answer : Except HarnessError Unit) :
      Turn filter group trial s c
        (checkpointed trial.spec s ++ ⟨.report (.beginProbe group trial.spec), .ok ()⟩ ::
          ⟨.clock, started⟩ :: own ++ [⟨.clock, ended⟩, verdictEntry trial.spec.name outcome,
          ⟨.report (.record (.of group trial.spec outcome evidence (ended.since started))),
            answer⟩])
        answer
        (kept s (.of group trial.spec outcome evidence (ended.since started)) answer) c'

/-- A turn that an enabled probe takes from its begin event on. -/
theorem plays_attend {filter : ProbeFilter} {group : String} {trial : Trial C} {s s' : RunSummary}
    {c c' : C} {j : Journal} {r : Except HarnessError Unit}
    (on : filter.allows group trial.spec.name = true)
    (h : Plays (do
      report (.beginProbe group trial.spec)
      let started ← liftM (Program.request .clock)
      let (summary, context) ← get
      let ((outcome, evidence), context) ← liftM (trial.run context)
      set (summary, context)
      let ended ← liftM (Program.request .clock)
      noteVerdict trial.spec.name outcome
      Battery.record (.of group trial.spec outcome evidence (ended.since started)) :
        Session (RunSummary × C) Unit) (s, c) j r (s', c')) :
    Turn filter group trial s c (checkpointed trial.spec s ++ j) r s' c' := by
  obtain ⟨e, rfl, rfl, heq⟩ | ⟨j, rfl, h₁⟩ := plays_report_bind.mp h
  · cases heq
    exact .beginRefused on e
  obtain ⟨_, started, j₁, rfl, hstart, h₂⟩ := plays_lift_bind.mp h₁
  obtain rfl := (Program.plays_request .clock ..).mp hstart
  rw [plays_get_bind] at h₂
  -- from here on nothing stops the turn before its record
  obtain ⟨own, ⟨⟨outcome, evidence⟩, c''⟩, j₂, rfl, hrun, h₃⟩ := plays_lift_bind.mp h₂
  rw [plays_set_bind] at h₃
  obtain ⟨_, ended, j₃, rfl, hend, h₄⟩ := plays_lift_bind.mp h₃
  obtain rfl := (Program.plays_request .clock ..).mp hend
  obtain ⟨_, hnote, _⟩ | ⟨_, _, _, _, rfl, hnote, h₅⟩ := plays_bind.mp h₄
  · obtain ⟨_, heq, _⟩ := plays_noteVerdict.mp hnote
    cases heq
  obtain ⟨rfl, -, rfl⟩ := plays_noteVerdict.mp hnote
  obtain ⟨rfl, rfl, rfl⟩ := plays_record.mp h₅
  simpa using Turn.ran on hrun r

/-- The turn of a probe takes one of the four courses. -/
theorem plays_execute {filter : ProbeFilter} {group : String} {trial : Trial C} {s s' : RunSummary}
    {c c' : C} {j : Journal} {r : Except HarnessError Unit}
    (h : Plays (execute filter group trial) (s, c) j r (s', c')) :
    Turn filter group trial s c j r s' c' := by
  unfold execute at h
  cases on : filter.allows group trial.spec.name with
  | false =>
    simp only [on, Bool.not_false, if_true, plays_record] at h
    obtain ⟨rfl, rfl, rfl⟩ := h
    exact .shutOut on r
  | true =>
    cases may : trial.spec.mayNotReturn with
    | false =>
      simp only [on, may, Bool.not_true, Bool.false_eq_true, if_false] at h
      simpa [checkpointed, may] using plays_attend on h
    | true =>
      simp only [on, may, Bool.not_true, Bool.false_eq_true, if_false, if_true] at h
      obtain ⟨j, rfl, h₁⟩ := plays_note_bind.mp h
      rw [plays_get_bind] at h₁
      obtain ⟨e, rfl, rfl, heq⟩ | ⟨j₁, rfl, h₂⟩ := plays_report_bind.mp h₁
      · cases heq
        exact .checkpointRefused on may e
      simpa [checkpointed, checkpointNote, may] using plays_attend on h₂

/-! ## Groups -/

/-- The log entry before a group. -/
def groupNote (g : Group) : Entry :=
  noteEntry .info "Running probe group" [("group", .text g.name)]

/-- The courses of the probes of a group one after another, from a summary and a context. -/
abbrev Turns (filter : ProbeFilter) (group : String) (trials : List (Trial C)) (s : RunSummary)
    (c : C) (j : Journal) (r : Except HarnessError Unit) (s' : RunSummary) (c' : C) : Prop :=
  Each (execute filter group) trials (s, c) j r (s', c')

/-- The courses of the part of a group in a run. -/
inductive GroupPart (filter : ProbeFilter) (g : Group) (s : RunSummary) :
    Journal → Except HarnessError Unit → RunSummary → Prop
  /-- The reporter refuses the begin of the group. -/
  | refused (e : HarnessError) :
      GroupPart filter g s [groupNote g, ⟨.report (.beginGroup g.name), .error e⟩] (.error e) s
  /-- The probes take their turns, and the group is torn down. -/
  | ran {opening probes r s' left teardown c} (opened : (g.opening s).Plays opening ())
      (turns : Turns filter g.name g.trials s g.start probes r s' left)
      (tornDown : (tearDown g.name g.teardown left).Plays teardown c) :
      GroupPart filter g s (groupNote g :: ⟨.report (.beginGroup g.name), .ok ()⟩ :: opening ++
        (probes ++ teardown)) r s'

theorem plays_runGroup {filter : ProbeFilter} {g : Group} {s s' : RunSummary} {j : Journal}
    {r : Except HarnessError Unit} (h : Plays (runGroup filter g) s j r s') :
    GroupPart filter g s j r s' := by
  unfold runGroup at h
  obtain ⟨j, rfl, h₁⟩ := plays_note_bind.mp h
  obtain ⟨e, rfl, rfl, rfl⟩ | ⟨j₁, rfl, h₂⟩ := plays_report_bind.mp h₁
  · exact .refused e
  rw [plays_get_bind] at h₂
  obtain ⟨opening, _, j₂, rfl, hopen, h₃⟩ := plays_lift_bind.mp h₂
  rw [plays_get_bind] at h₃
  obtain ⟨probes, ⟨result, s₁, left⟩, j₃, rfl, hturns, h₄⟩ := plays_lift_bind.mp h₃
  rw [plays_set_bind] at h₄
  obtain ⟨teardown, c, j₄, rfl, htear, h₅⟩ := plays_lift_bind.mp h₄
  -- the part ends as its turns did
  obtain ⟨rfl, rfl, rfl⟩ : j₄ = [] ∧ r = result ∧ s' = s₁ := by
    rcases result with e | ⟨⟩
    · exact plays_throw.mp h₅
    · exact plays_pure.mp h₅
  simpa [groupNote] using GroupPart.ran hopen (plays_forM hturns) htear

/-! ## Runs -/

/-- The entries before the first group: a log entry and the begin of the run. -/
def preface (b : Battery) (runId : String) (startedAt : Int64) (answer : Except HarnessError Unit) :
    Journal :=
  [noteEntry .info "Starting probe run"
      [("run_id", .text runId), ("groups", .int b.groups.length),
       ("exec_model", .text b.execModel.name)],
    ⟨.report (.beginRun ⟨runId, startedAt, b.execModel⟩), answer⟩]

/-- The entries behind the last group: a log entry and the end of the run. -/
def closing (s : RunSummary) (answer : Except HarnessError Unit) : Journal :=
  [noteEntry .info "Probe run finished"
      [("passed", .int s.passed), ("failed", .int s.failed), ("skipped", .int s.skipped)],
    ⟨.report (.finish s), answer⟩]

/-- The courses of a run. -/
inductive RunCourse (b : Battery) (runId : String) (startedAt : Int64) :
    Journal → Except HarnessError RunSummary → Prop
  /-- The reporter refuses the begin of the run. -/
  | refused (e : HarnessError) :
      RunCourse b runId startedAt (b.preface runId startedAt (.error e)) (.error e)
  /-- A group stops the run. -/
  | stopped {j : Journal} {e : HarnessError} {s : RunSummary}
      (groups : Each (runGroup b.filter) b.groups { runId, startedAt } j (.error e) s) :
      RunCourse b runId startedAt (b.preface runId startedAt (.ok ()) ++ j) (.error e)
  /-- All groups have their parts, and the end of the run is reported. -/
  | ended {j : Journal} {s : RunSummary}
      (groups : Each (runGroup b.filter) b.groups { runId, startedAt } j (.ok ()) s)
      (answer : Except HarnessError Unit) :
      RunCourse b runId startedAt
        (b.preface runId startedAt (.ok ()) ++ (j ++ closing { s with complete := true } answer))
        (answer.map fun _ => { s with complete := true })

theorem plays_run {b : Battery} {runId : String} {startedAt : Int64} {j : Journal}
    {result : Except HarnessError RunSummary} (h : (b.run runId startedAt).Plays j result) :
    RunCourse b runId startedAt j result := by
  unfold run at h
  rw [Program.plays_bind] at h
  obtain ⟨j, ⟨r, s⟩, _, rfl, hsession, rfl, rfl⟩ := h
  rw [List.append_nil]
  change Plays _ _ j result s at hsession
  obtain ⟨j₁, rfl, h₁⟩ := plays_note_bind.mp hsession
  obtain ⟨e, rfl, rfl, rfl⟩ | ⟨j₂, rfl, h₂⟩ := plays_report_bind.mp h₁
  · exact .refused e
  -- a group that stops leaves neither the closing entries nor a summary
  obtain ⟨e, hgroups, rfl⟩ | ⟨j₃, _, s₁, j₄, rfl, hgroups, h₃⟩ := plays_bind.mp h₂
  · exact .stopped (plays_forM hgroups)
  rw [plays_modify_bind, plays_get_bind] at h₃
  obtain ⟨j₅, rfl, h₄⟩ := plays_note_bind.mp h₃
  obtain ⟨e, rfl, rfl, rfl⟩ | ⟨j₆, rfl, h₅⟩ := plays_report_bind.mp h₄
  · exact .ended (plays_forM hgroups) (.error e)
  · obtain ⟨rfl, rfl, rfl⟩ := plays_pure.mp h₅
    exact .ended (plays_forM hgroups) (.ok ())

end KernelProbe.Battery
