import KernelProbe.Abi.Thread
import KernelProbe.Session.Filter
import KernelProbe.Time.Duration
import KernelProbe.Verdict.Failure

/-!
# Configuration

What the battery needs to know of the kernel under test. `HarnessConfig.validate` refuses a
configuration under which probes would mean nothing or never end, with the first fault in a fixed
order.
-/

namespace KernelProbe

/-- What the battery needs to know of the kernel under test. -/
structure HarnessConfig where
  /-- What a successful `execve` does. -/
  execModel : ExecModel := .spawn
  /-- An existing program. -/
  execTarget : String := "/usr/statx"
  /-- The arguments for it. -/
  execArgv : List String := ["ls", "-l", "-a"]
  /-- The environment for it. -/
  execEnvp : List String := []
  /-- A path that does not exist. -/
  missingExecPath : String := "/this-program-does-not-exist"
  /-- How the first thread's id relates to the process id. -/
  threadIdModel : ThreadIdModel := .matchesPid
  /-- The lengths of the mappings to make. -/
  mapLengths : List UInt64 := [0x8000, 0x2001]
  /-- The size of a page. -/
  pageSize : UInt64 := 0x1000
  /-- The bound on the refused futex wait. -/
  waitTimeout : Duration := .ofSeconds 1
  /-- The bound on the wait for the clone child. -/
  joinTimeout : Duration := .ofSeconds 2
  /-- The thread-local storage slots that the kernel may pick. -/
  tlsSlots : SlotRange := .tls
  /-- The descriptor that the output group writes to. -/
  outputFd : Int32 := 1
  /-- Which probes may run. -/
  filter : ProbeFilter := {}
deriving DecidableEq, Repr

namespace HarnessConfig

/-- The first length that stands in the list a second time. -/
def firstRepeat : List UInt64 → List UInt64 → Option UInt64
  | _, [] => none
  | seen, n :: rest => if n ∈ seen then some n else firstRepeat (n :: seen) rest

/-- Whether a word has exactly one bit set. -/
def isPowerOfTwo (n : UInt64) : Bool := n != 0 && (n &&& (n - 1)) == 0

/-- The request for the existing program. -/
def execRequest (c : HarnessConfig) : Except HarnessError ExecRequest :=
  (ExecRequest.of? c.execTarget c.execArgv c.execEnvp).mapError .ofNul

/-- The request for the path that does not exist. -/
def missingExecRequest (c : HarnessConfig) : Except HarnessError ExecRequest :=
  (ExecRequest.of? c.missingExecPath c.execArgv c.execEnvp).mapError .ofNul

/-- Refuse a configuration for a reason. -/
def refuse (reason : String) : Except HarnessError Unit := .error (.config reason)

/-- Accept a configuration, or name the first thing that is wrong with it. -/
def validate (c : HarnessConfig) : Except HarnessError Unit := do
  if !isPowerOfTwo c.pageSize then
    refuse ("page size " ++ Text.hex c.pageSize.toNat ++ " is not a power of two")
  if c.mapLengths.isEmpty || c.mapLengths.contains 0 then
    refuse "mapping lengths must be non-empty and non-zero"
  if let some n := firstRepeat [] c.mapLengths then
    refuse ("mapping length " ++ Text.hex n.toNat ++ " is listed more than once")
  if c.waitTimeout.isZero || c.joinTimeout.isZero then
    refuse "wait timeouts must be non-zero"
  if c.execTarget = c.missingExecPath then
    refuse ("exec target and missing path are both " ++ c.execTarget)
  if c.tlsSlots.contains ThreadAreaDescriptor.autoAssign then
    refuse "TLS slot range must not contain the auto-assign sentinel"
  let _ ← c.execRequest
  let _ ← c.missingExecRequest

/-- The requests for the missing and the existing path of an accepted configuration. -/
def requests (c : HarnessConfig) : Except HarnessError (ExecRequest × ExecRequest) := do
  c.validate
  return (← c.missingExecRequest, ← c.execRequest)

end HarnessConfig

end KernelProbe
