import KernelProbe.Codec.Encode
import KernelProbe.Report.Event
import KernelProbe.Report.Sink

/-!
# The JSON lines log

The log of a run for programs: one JSON object on a line for every event but the beginning of a
group, which the records name anyway.
-/

namespace KernelProbe

namespace JsonLines

/-- The fields of a summary without its records. -/
def totals (kind : String) (s : RunSummary) : Json :=
  .object
    [("type", .string kind), ("run_id", .string s.runId), ("total", .nat s.records.length),
     ("passed", .nat s.passed), ("failed", .nat s.failed), ("skipped", .nat s.skipped),
     ("complete", .bool s.complete)]

/-- The object of an event, if it has one. -/
def line? : ReportEvent → Option Json
  | .beginRun info => some (.object
      [("type", .string "run"), ("run_id", .string info.runId),
       ("started_at", .int info.startedAt.toInt), ("exec_model", info.execModel.toJson)])
  | .beginGroup _ => none
  | .beginProbe group spec => some (.object
      [("type", .string "probe"), ("group", .string group), ("probe", .string spec.name),
       ("syscalls", .array (spec.syscalls.map Syscall.toJson)),
       ("may_not_return", .bool spec.mayNotReturn)])
  | .record r => some (.object (("type", .string "record") :: r.fields))
  | .checkpoint s => some (totals "checkpoint" s)
  | .finish s => some (totals "summary" s)

/-- The JSON lines log as a reporter. -/
def reporter : Reporter Sink where
  receive event sink :=
    match line? event with
    | none => (.ok (), sink)
    | some line => sink.writeLine line.render

end JsonLines

end KernelProbe
