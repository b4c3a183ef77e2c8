import KernelProbe.Abi.Exec
import KernelProbe.Verdict.Outcome

/-!
# Failures

A `ProbeError` is what stops one probe and becomes its outcome: a failed setup skips it, everything
else fails it. A `HarnessError` is what stops a whole run: a configuration that makes no sense, or a
reporter that takes no more output.
-/

namespace KernelProbe

/-- What stops a probe. -/
inductive ProbeError where
  /-- What the probe needs could not be had. -/
  | setup (message : String) (observed : Option RawReturn)
  /-- The kernel broke the contract. -/
  | assertion (message : String) (observed : Option RawReturn)
  /-- A call failed for a reason that the contract does not foresee. -/
  | unexpected (cause : SyscallError)
  /-- The probe gave up in the middle. -/
  | panicked (message : String)
deriving DecidableEq, Repr

namespace ProbeError

/-- A setup that failed because a call that it needs failed. -/
def setupCall (message : String) (cause : SyscallError) : ProbeError :=
  .setup (message ++ ": " ++ cause.message) (some cause.raw)

/-- The kind of failure. -/
def kind : ProbeError → FailureKind
  | setup .. => .setupFailure
  | assertion .. => .assertionFailure
  | unexpected _ => .unexpectedSyscallError
  | panicked _ => .panicked

/-- The error in words. -/
def message : ProbeError → String
  | setup m _ => "Setup failure: " ++ m
  | assertion m _ => "Assertion failure: " ++ m
  | unexpected cause => "Unexpected syscall error: " ++ cause.message
  | panicked m => "Probe panicked: " ++ m

/-- The diagnosis that the error leads to. -/
def diagnosis (e : ProbeError) : Diagnosis :=
  match e with
  | setup m observed | assertion m observed => .of e.kind m observed
  | unexpected cause => .of e.kind cause.message (some cause.raw)
  | panicked m => .of e.kind m none

/-- The outcome that the error leads to: a failed setup skips the probe, all else fails it. -/
def outcome (e : ProbeError) : Outcome :=
  match e with
  | setup .. => .skipped e.diagnosis
  | assertion .. | unexpected _ | panicked _ => .fail e.diagnosis

end ProbeError

/-- What stops a run. -/
inductive HarnessError where
  /-- A probe's error where no outcome can hold it. -/
  | probe (cause : ProbeError)
  /-- The configuration makes no sense. -/
  | config (message : String)
  /-- Output could not be written. -/
  | output (message : String)
  /-- A value could not be written in its format. -/
  | serialization (message : String)
  /-- A call failed where no outcome can hold it. -/
  | syscall (cause : SyscallError)
deriving DecidableEq, Repr

namespace HarnessError

/-- The error in words. -/
def message : HarnessError → String
  | probe cause => "Probe error: " ++ cause.message
  | config m => "Configuration error: " ++ m
  | output m => "IO error: " ++ m
  | serialization m => "Serialization error: " ++ m
  | syscall cause => "Syscall error: " ++ cause.message

/-- The name of the error's kind. -/
def kind : HarnessError → String
  | probe _ => "Probe"
  | config _ => "Config"
  | output _ => "Io"
  | serialization _ => "Serialization"
  | syscall _ => "Syscall"

/-- The configuration error for an argument with a zero byte. -/
def ofNul (e : NulError) : HarnessError :=
  .config ("interior NUL byte in argument: " ++ e.message)

end HarnessError

end KernelProbe
