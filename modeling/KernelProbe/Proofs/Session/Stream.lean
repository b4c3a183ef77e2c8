import KernelProbe.Proofs.Session.Completeness

/-!
# The event stream of a run

`Battery.stream b info records` spells out the events of a run of `b` that has the given records,
turn by turn and group by group. Each summary in it is counted afresh by `RunInfo.tally` from the
records that stand before it in the stream (`honest_stream`).

A run keeps its totals one verdict at a time. `RunInfo.tally_push` says that the two ways of
counting agree, and from there the stream is grown along the turns of the probes (`turns_reported`),
the parts of the groups (`groups_reported`) and the run (`RunCourse.reported`).
-/

namespace KernelProbe

/-! ## The stream -/

/-- The summary of a run with some records, its totals counted from the records. -/
def RunInfo.tally (info : RunInfo) (records : List ProbeRecord) (complete : Bool) : RunSummary where
  runId := info.runId
  startedAt := info.startedAt
  records := records
  passed := records.countP (·.outcome.isPass)
  failed := records.countP (·.outcome.isFail)
  skipped := records.countP (·.outcome.isSkipped)
  complete := complete

/-- A record counts the same whether it is pushed or counted with the others. -/
theorem RunInfo.tally_push (info : RunInfo) (past : List ProbeRecord) (record : ProbeRecord)
    (complete : Bool) :
    (info.tally past complete).push record = info.tally (past ++ [record]) complete := by
  unfold RunSummary.push tally
  simp only [List.countP_append, List.countP_singleton]
  cases record.outcome <;> rfl

/-- The events of a probe's turn, which ends with `record`, behind the records `past`. -/
def PlanEntry.stream (info : RunInfo) (entry : PlanEntry) (past : List ProbeRecord)
    (record : ProbeRecord) : List ReportEvent :=
  if entry.enabled then
    (if entry.spec.mayNotReturn then [.checkpoint (info.tally past false)] else []) ++
      [.beginProbe entry.group entry.spec, .record record]
  else [.record record]

/-- Every summary among the events is that of the records before it: `past`, and those reported on
the way. -/
def RunInfo.Honest (info : RunInfo) : (past : List ProbeRecord) → List ReportEvent → Prop
  | _, [] => True
  | past, .checkpoint s :: events => s = info.tally past false ∧ info.Honest past events
  | past, .finish s :: events => s = info.tally past true ∧ info.Honest past events
  | past, .record record :: events => info.Honest (past ++ [record]) events
  | past, .beginRun _ :: events | past, .beginGroup _ :: events
  | past, .beginProbe .. :: events => info.Honest past events

namespace Battery

/-- The events of the turns of some entries, which end with `records`, behind the records `past`. -/
def turnsStream (info : RunInfo) :
    List PlanEntry → (past records : List ProbeRecord) → List ReportEvent
  | entry :: entries, past, record :: records =>
    entry.stream info past record ++ turnsStream info entries (past ++ [record]) records
  | _, _, _ => []

/-- The events of groups one after another, each with its share of `records`, behind the records
`past`. -/
def groupsStream (info : RunInfo) (filter : ProbeFilter) :
    List Group → (past records : List ProbeRecord) → List ReportEvent
  | [], _, _ => []
  | g :: groups, past, records =>
    let own := records.take g.specs.length
    .beginGroup g.name :: turnsStream info (g.specs.map (entry filter g.name)) past own ++
      groupsStream info filter groups (past ++ own) (records.drop g.specs.length)

/-- The events of a run with the given records. -/
def stream (b : Battery) (info : RunInfo) (records : List ProbeRecord) : List ReportEvent :=
  .beginRun info :: groupsStream info b.filter b.groups [] records ++
    [.finish (info.tally records true)]

open Journal Staged

variable {C : Type} {calls : List Syscall} {filter : ProbeFilter} {group : String} {trial : Trial C}
  {info : RunInfo} {past records : List ProbeRecord} {events : List ReportEvent}
  {s s' : RunSummary} {c c' : C} {j : Journal} {r : Except HarnessError Unit}

/-! ## Honesty of the stream -/

theorem honest_turnStream (entry : PlanEntry) (record : ProbeRecord) :
    info.Honest past (entry.stream info past record ++ events) ↔
      info.Honest (past ++ [record]) events := by
  unfold PlanEntry.stream
  cases entry.enabled with
  | false => rfl
  | true =>
    cases entry.spec.mayNotReturn with
    | false => rfl
    | true => exact and_iff_right rfl

theorem honest_turnsStream {entries : List PlanEntry} (h : records.length = entries.length) :
    info.Honest past (turnsStream info entries past records ++ events) ↔
      info.Honest (past ++ records) events := by
  induction entries generalizing past records with
  | nil =>
    obtain rfl := List.length_eq_zero_iff.mp h
    rw [List.append_nil]
    rfl
  | cons entry entries ih =>
    cases records with
    | nil => cases h
    | cons record records =>
      rw [turnsStream, List.append_assoc, honest_turnStream, ih (Nat.succ.inj h), List.append_assoc]
      rfl

theorem honest_groupsStream {groups : List Group}
    (h : records.length = (groups.flatMap fun g => g.specs.map (entry filter g.name)).length) :
    info.Honest past (groupsStream info filter groups past records ++ events) ↔
      info.Honest (past ++ records) events := by
  induction groups generalizing past records with
  | nil =>
    obtain rfl := List.length_eq_zero_iff.mp h
    rw [List.append_nil]
    rfl
  | cons g groups ih =>
    rw [List.flatMap_cons, List.length_append, List.length_map] at h
    have hown : (records.take g.specs.length).length
        = (g.specs.map (entry filter g.name)).length := by
      rw [List.length_take, List.length_map]
      omega
    have hothers : (records.drop g.specs.length).length
        = (groups.flatMap fun g => g.specs.map (entry filter g.name)).length := by
      rw [List.length_drop]
      omega
    have hbegin (events : List ReportEvent) :
        info.Honest past (.beginGroup g.name :: events) ↔ info.Honest past events := Iff.rfl
    rw [groupsStream, List.append_assoc, List.cons_append, hbegin, honest_turnsStream hown,
      ih hothers, List.append_assoc, List.take_append_drop]

/-- The summaries in the stream of a battery are those of the records before them. -/
theorem honest_stream {b : Battery} (h : records.length = b.plan.length) :
    info.Honest [] (b.stream info records) :=
  (honest_groupsStream h).mpr ⟨rfl, trivial⟩

/-! ## Turns -/

theorem reports_checkpointed (spec : ProbeSpec) (s : RunSummary) :
    (checkpointed spec s).reports = if spec.mayNotReturn then [.checkpoint s] else [] := by
  unfold checkpointed
  split <;> rfl

/-- Up to its record, a probe that ran reports a checkpoint, if it may not return, and its begin. -/
theorem reports_attended {spec : ProbeSpec} {started ended : Instant} {own : Journal}
    {outcome : Outcome} (hown : own.reports = []) :
    (attended group spec s started ended own outcome).reports
      = (if spec.mayNotReturn then [.checkpoint s] else []) ++ [.beginProbe group spec] := by
  have hverdict := (silent_verdict ended spec.name outcome).2
  simp only [attended, reports_append, reports_checkpointed, hown, hverdict, List.append_nil]
  exact List.append_nil _

/-- A turn that comes to its end reports the events of its entry, and counts its record. -/
theorem Turn.reported (ht : trial.Within calls)
    (h : Turn filter group trial (info.tally past false) c j (.ok ()) s' c') :
    ∃ record, s' = info.tally (past ++ [record]) false ∧
      j.reports = (entry filter group trial.spec).stream info past record := by
  cases h with
  | shutOut off answer =>
    refine ⟨Battery.shutOut group trial.spec, ?_, ?_⟩
    · rw [kept, info.tally_push]
    · rw [PlanEntry.stream, entry, off]
      rfl
  | @ran on started own outcome evidence _ ended plays answer =>
    refine ⟨.of group trial.spec outcome evidence (ended.since started), ?_, ?_⟩
    · rw [kept, info.tally_push]
    · rw [ran_eq_attended, reports_append, reports_attended (ht.within plays).reports,
        List.append_assoc, PlanEntry.stream, entry, on]
      rfl

section

variable {trials : List (Trial C)} {p p' : RunSummary × C}

/-- Turns that come to their end report the events of their entries, and count their records. -/
theorem turns_reported (ht : ∀ t ∈ trials, t.Within calls)
    (h : Each (execute filter group) trials p j r p') (hr : r = .ok ())
    (hp : p.1 = info.tally past false) :
    ∃ records, records.length = trials.length ∧ p'.1 = info.tally (past ++ records) false ∧
      j.reports
        = turnsStream info (trials.map fun t => entry filter group t.spec) past records := by
  induction h generalizing past with
  | done => exact ⟨[], rfl, by rw [hp, List.append_nil], rfl⟩
  | stopped first => cases hr
  | @next t ts p j₁ p₁ j₂ _ _ first rest ih =>
    -- the turn leaves the summary of one record more, which is where the others start
    have hturn := plays_execute (s := p.1) first
    rw [hp] at hturn
    obtain ⟨record, hpush, hfirst⟩ := hturn.reported (ht t List.mem_cons_self)
    obtain ⟨records, hlength, htally, hrest⟩ :=
      ih (fun t hmem => ht t (List.mem_cons_of_mem _ hmem)) hr hpush
    refine ⟨record :: records, congrArg (· + 1) hlength, ?_, ?_⟩
    · rw [htally, List.append_assoc]
      rfl
    · rw [reports_append, hfirst, hrest]
      rfl

end

/-! ## Groups -/

variable {g : Group} {left : g.Context}

/-- The teardown of a group reports nothing. -/
theorem reports_tearDown (hg : g.Within calls) {c : g.Context}
    (h : (tearDown g.name g.teardown left).Plays j c) : j.reports = [] := by
  obtain ⟨own, _, hown, -, hreports⟩ := plays_tearDown h
  rw [hreports, (hg.teardown hown).reports]

/-- The part of a group that comes to its end reports its begin and the events of its entries. -/
theorem GroupPart.reported (hg : g.Within calls)
    (h : GroupPart filter g (info.tally past false) j (.ok ()) s') :
    ∃ records, records.length = g.specs.length ∧ s' = info.tally (past ++ records) false ∧
      j.reports = .beginGroup g.name ::
        turnsStream info (g.specs.map (entry filter g.name)) past records := by
  obtain ⟨_, -, ⟨⟩, -⟩ | ⟨probes, teardown, left, c, rfl, turns, tornDown, -⟩ := h.anatomy hg
  obtain ⟨records, hlength, htally, hprobes⟩ := turns_reported hg.trials turns rfl rfl
  refine ⟨records, ?_, htally, ?_⟩
  · rw [hlength, Group.specs, List.length_map]
  · rw [reports_append, reports_append, reports_tearDown hg tornDown, hprobes, List.append_nil,
      Group.specs, List.map_map]
    rfl

/-- Groups that come to their end report the events of their parts, and count their records. -/
theorem groups_reported {groups : List Group} (hgroups : ∀ g ∈ groups, ∃ calls, g.Within calls)
    (h : Each (runGroup filter) groups s j r s') (hr : r = .ok ())
    (hs : s = info.tally past false) :
    ∃ records,
      records.length = (groups.flatMap fun g => g.specs.map (entry filter g.name)).length ∧
      s' = info.tally (past ++ records) false ∧
      j.reports = groupsStream info filter groups past records := by
  induction h generalizing past with
  | done => exact ⟨[], rfl, by rw [hs, List.append_nil], rfl⟩
  | stopped first => cases hr
  | @next g groups s j₁ s₁ j₂ _ _ first rest ih =>
    obtain ⟨calls, hg⟩ := hgroups g List.mem_cons_self
    have hpart := plays_runGroup first
    rw [hs] at hpart
    obtain ⟨own, hown, hpush, hfirst⟩ := hpart.reported hg
    obtain ⟨records, hlength, htally, hrest⟩ :=
      ih (fun g hmem => hgroups g (List.mem_cons_of_mem _ hmem)) hr hpush
    refine ⟨own ++ records, ?_, ?_, ?_⟩
    · rw [List.length_append, hown, hlength, List.flatMap_cons, List.length_append, List.length_map]
    · rw [htally, List.append_assoc]
    · rw [reports_append, hfirst, hrest, groupsStream, List.take_left' hown, List.drop_left' hown]

/-! ## Runs -/

/-- A run whose reporter takes every event reports the stream of its battery, and its summary is
that of the records in the stream. -/
theorem RunCourse.reported {b : Battery} {runId : String} {startedAt : Int64}
    {result : Except HarnessError RunSummary} (hgroups : ∀ g ∈ b.groups, ∃ calls, g.Within calls)
    (h : RunCourse b runId startedAt j result) (accepted : j.Accepted)
    (hinfo : info = ⟨runId, startedAt, b.execModel⟩) :
    ∃ records, records.length = b.plan.length ∧ result = .ok (info.tally records true) ∧
      j.reports = b.stream info records := by
  obtain ⟨parts, s, groups, rfl, rfl⟩ := h.ended_of_accepted accepted
  have hstart : { runId, startedAt } = info.tally [] false := by
    rw [hinfo]
    rfl
  obtain ⟨records, hlength, rfl, hreports⟩ := groups_reported hgroups groups rfl hstart
  refine ⟨records, hlength, rfl, ?_⟩
  rw [reports_append, reports_append, hreports, hinfo]
  rfl

/-- If the reporter takes every event, a run of the standard battery reports, on every kernel, the
begin of the run, the parts of the seven groups in their order, with the turns of their probes in
the order of the plan, and the end of the run. What is recorded are the records of the summary, and
the totals of every summary on the way are those of the records before it. -/
theorem standard_stream {κ ρ : Type} (kernel : Kernel κ) (reporter : Reporter ρ) (k : κ) (r : ρ)
    (takes : ∀ event r, (reporter.receive event r).1 = .ok ()) {c : HarnessConfig} {b : Battery}
    (hb : standard c = .ok b) (runId : String) (startedAt : Int64) :
    let info : RunInfo := ⟨runId, startedAt, c.execModel⟩
    let run := (b.run runId startedAt).run kernel reporter k r
    (b.groupNames = ["output", "identity", "files", "memory", "concurrency", "system",
        "process_lifecycle"] ∧
      b.plan.map (fun entry => (entry.group, entry.spec.name))
        = (roster c.mapLengths).flatten.map fun i => (i.group, i.name)) ∧
    ∃ summary, run.result = .ok summary ∧
      run.journal.reports = b.stream info summary.records ∧
      info.Honest [] run.journal.reports ∧
      run.journal.records = summary.records ∧
      summary.records.length = b.plan.length ∧
      summary = info.tally summary.records true := by
  intro info run
  obtain ⟨missing, existing, hc, rfl⟩ := standard_eq_ok hb
  have hgroups := within_ofRequests hc
  have accepted : run.journal.Accepted := Program.run_accepted kernel reporter takes _ k r
  have hcourse : RunCourse (ofRequests c missing existing) runId startedAt run.journal run.result :=
    plays_run (Program.run_plays ..)
  obtain ⟨records, hlength, hresult, hreports⟩ :=
    hcourse.reported hgroups accepted (show info = _ from rfl)
  have hhonest : info.Honest [] run.journal.reports := by
    rw [hreports]
    exact honest_stream hlength
  refine ⟨⟨rfl, map_name_plan⟩, info.tally records true, hresult, hreports, hhonest, ?_, hlength,
    rfl⟩
  -- the records of the summary are those of the journal
  obtain ⟨summary, hsummary, -, hrecords, -⟩ := hcourse.completed hgroups accepted
  cases hresult.symm.trans hsummary
  exact hrecords.symm

/-- What a run of the default battery on the modelled machine reports. -/
theorem standard_stream_default : ∃ (b : Battery) (summary : RunSummary), standard {} = .ok b ∧
    ((b.run "run" 0).run Host.Machine.kernel recording Host.Machine.start []).journal.reports
      = b.stream ⟨"run", 0, .spawn⟩ summary.records ∧
    summary.records.length = b.plan.length := by
  obtain ⟨-, summary, -, hreports, -, -, hlength, -⟩ := standard_stream (c := {})
    Host.Machine.kernel recording Host.Machine.start [] (fun _ _ => rfl) rfl "run" 0
  exact ⟨_, summary, rfl, hreports, hlength⟩

end Battery

end KernelProbe
