import KernelProbe.Report.Event
import KernelProbe.Report.Sink
import KernelProbe.Text.Style
import KernelProbe.Text.Table
import KernelProbe.Time.Timestamp

/-!
# The text log

The log of a run for people: a header for each group and each probe, the evidence line by line, a
verdict line, and at the end a table of all probes. A probe's header is written once, before the
probe runs or, if it never does, with its record.
-/

namespace KernelProbe

open Text (Style)

/-- A reporter that writes a text log. -/
structure TextLog where
  /-- Where it writes. -/
  sink : Sink := {}
  /-- Whether it uses terminal styles. -/
  color : Bool := false
  /-- The probe whose header was written last. -/
  current : Option String := none
deriving DecidableEq, Repr

namespace TextLog

/-- The names of system calls with commas between them. -/
def syscallList (syscalls : List Syscall) : String := Text.join ", " (syscalls.map Syscall.name)

/-- How many probes had which verdict. -/
def totals (s : RunSummary) : String :=
  Text.decimal s.passed ++ " passed, " ++ Text.decimal s.failed ++ " failed, "
    ++ Text.decimal s.skipped ++ " skipped (" ++ Text.decimal s.records.length ++ " probes)"

/-- The line that a run begins with. -/
def runLine (color : Bool) (info : RunInfo) : String :=
  Style.bold.paint color "sysprobe" ++ " run " ++ info.runId ++ " at "
    ++ Timestamp.text info.startedAt.toInt ++ " (exec model: " ++ info.execModel.name ++ ")\n"

/-- The lines that a group begins with. -/
def groupHeader (color : Bool) (group : String) : String :=
  "\n" ++ Style.cyanBold.paint color ("=== " ++ group ++ " ===") ++ "\n"

/-- The line that a probe begins with. -/
def probeHeader (color : Bool) (name : String) (syscalls : List Syscall) : String :=
  "--- " ++ Style.bold.paint color name ++ " [" ++ syscallList syscalls ++ "]\n"

/-- The lines of the evidence. -/
def evidenceLines (e : Evidence) : String :=
  String.join (e.entries.map fun (key, value) => "    " ++ key ++ ": " ++ value ++ "\n")

/-- The style of a verdict. -/
def verdictStyle : Outcome → Style
  | .pass => Style.greenBold
  | .fail _ => Style.redBold
  | .skipped _ => Style.yellowBold

/-- The line of the verdict. -/
def verdictLine (color : Bool) (r : ProbeRecord) : String :=
  "    verdict: " ++ (verdictStyle r.outcome).paint color r.outcome.verdict
    ++ (match r.outcome.diagnosis? with
      | some d => " " ++ d.text
      | none => "")
    ++ " (" ++ Text.decimal r.elapsedMicros.toNat ++ "us)\n"

/-- The line of a checkpoint. -/
def checkpointLine (color : Bool) (s : RunSummary) : String :=
  Style.yellowBold.paint color "checkpoint:" ++ " " ++ totals s ++ "\n"

/-- The row of a record in the final table. -/
def summaryRow (r : ProbeRecord) : List String :=
  [r.group, r.probe, r.outcome.verdict, (r.outcome.diagnosis?.map Diagnosis.text).getD ""]

/-- The final table. -/
def summaryTable (s : RunSummary) : Text.Table :=
  ⟨["group", "probe", "verdict", "detail"], s.records.map summaryRow⟩

/-- The lines that a run ends with. -/
def ending (color : Bool) (s : RunSummary) : String :=
  let style := if s.hasFailures then Style.redBold else Style.greenBold
  "\n" ++ (summaryTable s).render ++ "\n" ++ style.paint color (totals s) ++ "\n"

/-- What the log writes for an event, and the probe whose header then was written last. -/
def write (color : Bool) (current : Option String) : ReportEvent → String × Option String
  | .beginRun info => (runLine color info, current)
  | .beginGroup group => (groupHeader color group, current)
  | .beginProbe _ spec => (probeHeader color spec.name spec.syscalls, some spec.name)
  | .record r =>
    let body := evidenceLines r.evidence ++ verdictLine color r
    if current = some r.probe then (body, current)
    else (probeHeader color r.probe r.syscalls ++ body, some r.probe)
  | .checkpoint s => (checkpointLine color s, current)
  | .finish s => (ending color s, current)

/-- The text log as a reporter. -/
def reporter : Reporter TextLog where
  receive event log :=
    let (text, current) := write log.color log.current event
    let (answer, sink) := log.sink.writeText text
    (answer, { log with sink, current })

end TextLog

end KernelProbe
