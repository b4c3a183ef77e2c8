import KernelProbe.Abi.Exec
import KernelProbe.Abi.Thread
import KernelProbe.Json.Printer
import KernelProbe.Verdict.Summary

/-!
# Records as JSON

The JSON form of what a run leaves behind, with the fields of each object in a fixed order. An
outcome is an object whose field `verdict` tells which fields follow.
-/

namespace KernelProbe

/-- A system call as its name. -/
def Syscall.toJson (s : Syscall) : Json := .string s.name

/-- A kind of failure as its name. -/
def FailureKind.toJson (k : FailureKind) : Json := .string k.name

/-- An exec model as its name. -/
def ExecModel.toJson (m : ExecModel) : Json := .string m.name

/-- A thread id model as its name. -/
def ThreadIdModel.toJson (m : ThreadIdModel) : Json := .string m.name

/-- The fields of a diagnosis. -/
def Diagnosis.fields (d : Diagnosis) : List (String × Json) :=
  [("kind", d.kind.toJson), ("message", .string d.message),
   ("raw_return", Json.ofOption (fun r => Json.int r.toInt) d.rawReturn),
   ("errno", Json.ofOption (fun e => Json.int e.toInt) d.errno),
   ("errno_name", Json.ofOption Json.string d.errnoName)]

/-- A diagnosis as an object. -/
def Diagnosis.toJson (d : Diagnosis) : Json := .object d.fields

/-- An outcome as an object that its verdict heads. -/
def Outcome.toJson (o : Outcome) : Json :=
  .object (("verdict", .string o.verdict) :: match o.diagnosis? with
    | none => []
    | some d => d.fields)

/-- Evidence as a list of pairs. -/
def Evidence.toJson (e : Evidence) : Json :=
  .array (e.entries.map fun (key, value) => .array [.string key, .string value])

/-- The fields of a record. -/
def ProbeRecord.fields (r : ProbeRecord) : List (String × Json) :=
  [("group", .string r.group), ("probe", .string r.probe),
   ("syscalls", .array (r.syscalls.map Syscall.toJson)), ("outcome", r.outcome.toJson),
   ("evidence", r.evidence.toJson), ("elapsed_us", .nat r.elapsedMicros.toNat)]

/-- A record as an object. -/
def ProbeRecord.toJson (r : ProbeRecord) : Json := .object r.fields

/-- A summary as an object. -/
def RunSummary.toJson (s : RunSummary) : Json :=
  .object
    [("run_id", .string s.runId), ("started_at", .int s.startedAt.toInt),
     ("records", .array (s.records.map ProbeRecord.toJson)), ("passed", .nat s.passed),
     ("failed", .nat s.failed), ("skipped", .nat s.skipped), ("complete", .bool s.complete)]

/-- An identification as an object. -/
def UtsName.toJson (u : UtsName) : Json :=
  .object (u.fields.map fun (name, value) => (name, .string value))

end KernelProbe
