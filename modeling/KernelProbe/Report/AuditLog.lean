import KernelProbe.Report.JsonLines
import KernelProbe.Report.TextLog

/-!
# The audit log

The log of a run in any of its forms: the events themselves, kept in memory, the text log, or the
JSON lines log.
-/

namespace KernelProbe

/-- A reporter that keeps every event. -/
def recording : Reporter (List ReportEvent) where
  receive event seen := (.ok (), seen ++ [event])

/-- The log of a run in one of its forms. -/
inductive AuditLog where
  /-- The events themselves. -/
  | events (seen : List ReportEvent)
  /-- The text log. -/
  | text (log : TextLog)
  /-- The JSON lines log. -/
  | lines (sink : Sink)
deriving DecidableEq, Repr

namespace AuditLog

/-- The log as a reporter; it keeps its form. -/
def reporter : Reporter AuditLog where
  receive event
    | events seen =>
      let (answer, seen) := recording.receive event seen
      (answer, events seen)
    | text log =>
      let (answer, log) := TextLog.reporter.receive event log
      (answer, text log)
    | lines sink =>
      let (answer, sink) := JsonLines.reporter.receive event sink
      (answer, lines sink)

/-- The bytes that were written. -/
def bytes : AuditLog → List UInt8
  | events _ => []
  | text log => log.sink.written
  | lines sink => sink.written

/-- The text that was written, with U+FFFD for a character that was cut. -/
def output (log : AuditLog) : String := Text.decodeLossy log.bytes

/-- The events that were kept. -/
def kept : AuditLog → List ReportEvent
  | events seen => seen
  | _ => []

end AuditLog

end KernelProbe
