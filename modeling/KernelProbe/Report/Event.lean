import KernelProbe.Abi.Exec
import KernelProbe.Verdict.Failure
import KernelProbe.Verdict.Summary

/-!
# Report events

What a run tells its reporter, event by event, and the `Reporter` that receives the events one
after another and may refuse any of them.
-/

namespace KernelProbe

/-- What is known of a run before its first group. -/
structure RunInfo where
  /-- The name of the run. -/
  runId : String
  /-- When it started, in milliseconds since 1970. -/
  startedAt : Int64
  /-- What a successful `execve` is expected to do. -/
  execModel : ExecModel
deriving DecidableEq, Repr

/-- What a run tells its reporter. -/
inductive ReportEvent where
  /-- The run begins. -/
  | beginRun (info : RunInfo)
  /-- A group begins. -/
  | beginGroup (group : String)
  /-- A probe is about to run. -/
  | beginProbe (group : String) (spec : ProbeSpec)
  /-- A probe has its verdict. -/
  | record (record : ProbeRecord)
  /-- The next probe may end the process; this is the run so far. -/
  | checkpoint (summary : RunSummary)
  /-- The run is over. -/
  | finish (summary : RunSummary)
deriving DecidableEq, Repr

/-- A machine that receives report events and may refuse them. -/
structure Reporter (ρ : Type) where
  /-- Take one event. -/
  receive : ReportEvent → ρ → Except HarnessError Unit × ρ

/-- The reporter that hands each event on in another form. -/
def Reporter.comap {ρ : Type} (f : ReportEvent → ReportEvent) (reporter : Reporter ρ) :
    Reporter ρ where
  receive event := reporter.receive (f event)

/-- The reporter that refuses its `n`-th event with an error, counting from 0, before it gets
through to `reporter`. -/
def Reporter.refusing {ρ : Type} (reporter : Reporter ρ) (n : Nat) (error : HarnessError) :
    Reporter (Nat × ρ) where
  receive event := fun (seen, state) =>
    if seen = n then (.error error, seen + 1, state)
    else
      let (answer, state) := reporter.receive event state
      (answer, seen + 1, state)

end KernelProbe
