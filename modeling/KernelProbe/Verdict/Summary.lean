import KernelProbe.Time.Duration
import KernelProbe.Verdict.Evidence
import KernelProbe.Verdict.Outcome

/-!
# Records and summaries

A `ProbeSpec` names a probe and the calls that it exercises, a `ProbeRecord` is one run of a probe
with its outcome and evidence, and a `RunSummary` holds the records of a run so far with the number
of each verdict.
-/

namespace KernelProbe

/-- The identity of a probe. -/
structure ProbeSpec where
  /-- The name of the probe. -/
  name : String
  /-- The calls that it exercises. -/
  syscalls : List Syscall
  /-- Whether its success may end the process. -/
  mayNotReturn : Bool := false
deriving DecidableEq, Repr

/-- One run of a probe. -/
structure ProbeRecord where
  /-- The probe's group. -/
  group : String
  /-- The probe's name. -/
  probe : String
  /-- The calls that it exercises. -/
  syscalls : List Syscall
  /-- The verdict. -/
  outcome : Outcome
  /-- What the probe saw. -/
  evidence : Evidence
  /-- How long it took, in microseconds. -/
  elapsedMicros : UInt64
deriving DecidableEq, Repr

/-- The record of a probe that ran for `elapsed`; a time too long for the word is shown as its
greatest value. -/
def ProbeRecord.of (group : String) (spec : ProbeSpec) (outcome : Outcome) (evidence : Evidence)
    (elapsed : Duration) : ProbeRecord :=
  ⟨group, spec.name, spec.syscalls, outcome, evidence,
    UInt64.ofNat (min elapsed.micros (UInt64.size - 1))⟩

/-- A run, or the part of it that is done. -/
structure RunSummary where
  /-- The name of the run. -/
  runId : String
  /-- When it started, in milliseconds since 1970. -/
  startedAt : Int64
  /-- The records in the order in which the probes ran. -/
  records : List ProbeRecord := []
  /-- How many passed. -/
  passed : Nat := 0
  /-- How many failed. -/
  failed : Nat := 0
  /-- How many were skipped. -/
  skipped : Nat := 0
  /-- Whether the run came to its end. -/
  complete : Bool := false
deriving DecidableEq, Repr

namespace RunSummary

/-- Add a record at the end and count its verdict. -/
def push (s : RunSummary) (record : ProbeRecord) : RunSummary :=
  let s := { s with records := s.records ++ [record] }
  match record.outcome with
  | .pass => { s with passed := s.passed + 1 }
  | .fail _ => { s with failed := s.failed + 1 }
  | .skipped _ => { s with skipped := s.skipped + 1 }

/-- Whether some probe failed. -/
def hasFailures (s : RunSummary) : Bool := decide (0 < s.failed)

/-- The first record of a probe. -/
def record? (s : RunSummary) (probe : String) : Option ProbeRecord :=
  s.records.find? (·.probe == probe)

/-- The exit status of the program after a run: 1 if failures count and there are any. -/
def exitStatus (s : RunSummary) (failOnError : Bool) : Int32 :=
  if failOnError && s.hasFailures then 1 else 0

@[simp] theorem records_push (s : RunSummary) (record : ProbeRecord) :
    (s.push record).records = s.records ++ [record] := by
  unfold push
  cases record.outcome <;> rfl

end RunSummary

end KernelProbe
