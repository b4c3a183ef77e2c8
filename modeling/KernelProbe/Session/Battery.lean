import KernelProbe.Probe.Basic
import KernelProbe.Session.Filter

/-!
# Batteries

A `Battery` is an ordered list of probe groups with a filter. `Battery.plan` lists every probe with
whether it may run; `Battery.run` runs the groups one after another, reports every probe, and ends
with a summary. Only a refusing reporter stops it early.
-/

namespace KernelProbe

/-- An ordered list of probe groups. -/
structure Battery where
  /-- The groups in the order in which they run. -/
  groups : List Group
  /-- Which probes may run. -/
  filter : ProbeFilter := {}
  /-- What a successful `execve` is expected to do. -/
  execModel : ExecModel := .spawn

/-- A line of a plan. -/
structure PlanEntry where
  /-- The probe's group. -/
  group : String
  /-- The identity of the probe. -/
  spec : ProbeSpec
  /-- Whether the filter lets it run. -/
  enabled : Bool
deriving DecidableEq, Repr

namespace Battery

/-- Every probe in the order in which it comes up. -/
def plan (b : Battery) : List PlanEntry :=
  b.groups.flatMap fun g =>
    g.specs.map fun spec => ⟨g.name, spec, b.filter.allows g.name spec.name⟩

/-- The names of the groups. -/
def groupNames (b : Battery) : List String := b.groups.map (·.name)

/-- The target of the log events about the course of a run. -/
def logTarget : String := "sysprobe_core::application::sequencer"

/-- A part of a run over a state, which a reporter may stop. -/
abbrev Session (σ : Type) := ExceptT HarnessError (StateT σ Program)

/-- Report an event. -/
def report {σ : Type} (event : ReportEvent) : Session σ Unit := do
  match ← (liftM (Program.request (.report event)) : Session σ (Except HarnessError Unit)) with
  | .ok () => return ()
  | .error e => throw e

/-- Take note of a log event about the run. -/
def note {σ : Type} (level : LogLevel) (message : String)
    (fields : List (String × LogValue) := []) : Session σ Unit :=
  liftM (Program.log { level, target := logTarget, message, fields })

/-- Log the verdict on a probe. -/
def noteVerdict {σ : Type} (probe : String) (outcome : Outcome) : Session σ Unit :=
  match outcome with
  | .pass => note .info "PASS" [("probe", .text probe)]
  | .fail d => note .warn "FAIL" [("probe", .text probe), ("diagnosis", .text d.text)]
  | .skipped d => note .warn "SKIPPED" [("probe", .text probe), ("diagnosis", .text d.text)]

/-- Report a record and add it to the summary. -/
def record {C : Type} (r : ProbeRecord) : Session (RunSummary × C) Unit := do
  report (.record r)
  modify fun (summary, context) => (summary.push r, context)

/-- The outcome of a probe that the filter shuts out. -/
def disabled : Outcome := .skipped (.of .disabled "disabled by probe filter" none)

/-- Run a probe, or record that the filter shuts it out. -/
def execute {C : Type} (filter : ProbeFilter) (group : String) (trial : Trial C) :
    Session (RunSummary × C) Unit := do
  let spec := trial.spec
  if !filter.allows group spec.name then
    record (.of group spec disabled .empty .zero)
  else
    if spec.mayNotReturn then
      note .info "Probe may not return, emitting checkpoint" [("probe", .text spec.name)]
      report (.checkpoint (← get).1)
    report (.beginProbe group spec)
    let started ← liftM (Program.request .clock)
    let (summary, context) ← get
    let ((outcome, evidence), context) ← liftM (trial.run context)
    set (summary, context)
    let ended ← liftM (Program.request .clock)
    noteVerdict spec.name outcome
    record (.of group spec outcome evidence (ended.since started))

/-- Release what a group's probes left behind; a fault is logged and goes no further. -/
def tearDown (group : String) {C : Type} (teardown : Step C Unit) (context : C) : Program C := do
  let (result, context) ← (Step.guarded group teardown).run context
  if let .panicked message := result then
    Program.log
      { level := .warn, target := Probe.logTarget, message := "Group teardown panicked",
        fields := [("group", .text group), ("panic_msg", .text message)] }
  return context

/-- Run the probes of a group up to the first that cannot be reported, and tear the group down. -/
def runGroup (filter : ProbeFilter) (g : Group) : Session RunSummary Unit := do
  note .info "Running probe group" [("group", .text g.name)]
  report (.beginGroup g.name)
  liftM (g.opening (← get))
  let (result, summary, context) ←
    liftM ((g.trials.forM (execute filter g.name)).run.run (← get, g.start))
  set summary
  let _ ← liftM (tearDown g.name g.teardown context)
  liftExcept result
where
  /-- Go on or stop as a finished part says. -/
  liftExcept : Except HarnessError Unit → Session RunSummary Unit
    | .ok () => return ()
    | .error e => throw e

/-- Run the battery under a run's name and start time. -/
def run (b : Battery) (runId : String) (startedAt : Int64) :
    Program (Except HarnessError RunSummary) := do
  let session : Session RunSummary RunSummary := do
    note .info "Starting probe run"
      [("run_id", .text runId), ("groups", .int b.groups.length),
       ("exec_model", .text b.execModel.name)]
    report (.beginRun ⟨runId, startedAt, b.execModel⟩)
    b.groups.forM (runGroup b.filter)
    modify fun s => { s with complete := true }
    let summary ← get
    note .info "Probe run finished"
      [("passed", .int summary.passed), ("failed", .int summary.failed),
       ("skipped", .int summary.skipped)]
    report (.finish summary)
    return summary
  let (result, _) ← session.run.run { runId, startedAt }
  return result

end Battery

end KernelProbe
