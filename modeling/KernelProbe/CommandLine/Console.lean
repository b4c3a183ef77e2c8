import KernelProbe.CommandLine.Options
import KernelProbe.Program.Execution
import KernelProbe.Report.AuditLog

/-!
# Standard streams

What a run leaves on its standard streams: the log of the run and, in between, the bytes that the
probes themselves write to a stream.
-/

namespace KernelProbe

/-- An empty log in a format. -/
def OutputFormat.log (color : Bool) : OutputFormat → AuditLog
  | text => .text { color }
  | jsonl => .lines {}

/-- A reporter that takes every event and keeps none. -/
def Reporter.accepting : Reporter Unit where
  receive _ _ := (.ok (), ())

/-- Put bytes behind what a log has written. -/
def AuditLog.append (bytes : List UInt8) : AuditLog → AuditLog
  | .events seen => .events seen
  | .text log => .text { log with sink := (log.sink.write bytes).2 }
  | .lines sink => .lines (sink.write bytes).2

/-- The bytes that a question writes to a descriptor. -/
def Entry.writtenTo (fd : Int32) (e : Entry) : List UInt8 :=
  match e with
  | ⟨.call (.write target bytes), ⟨_, .value n⟩⟩ => if target = fd then bytes.take n.toNat else []
  | ⟨.call (.writev target parts), ⟨_, .value n⟩⟩ =>
    if target = fd then parts.flatten.take n.toNat else []
  | _ => []

namespace Journal

/-- What the calls of a run write to a descriptor. -/
def writtenTo (fd : Int32) (j : Journal) : List UInt8 := j.flatMap (Entry.writtenTo fd)

/-- The log of a run, together with what its calls write to the same descriptor. -/
def logWith (fd : Int32) (log : AuditLog) (j : Journal) : AuditLog :=
  j.foldl (fun log e => match e.report? with
    | some event => (AuditLog.reporter.receive event log).2
    | none => log.append (e.writtenTo fd)) log

end Journal

end KernelProbe
