import KernelProbe.Probe.Files

/-!
# Process lifecycle probes

`execve` of a path that does not exist, which must fail and leave the caller as it was, and `execve`
of an existing program, judged by what a success is expected to do. The missing path comes first,
because a success of the second probe may end the process.
-/

namespace KernelProbe.Lifecycle

/-- The group's name. -/
def groupName : String := "process_lifecycle"

/-- What the memory cell holds across the failed call. -/
def sentinelValue : UInt64 := 0x53595350524f4245

/-- What the lifecycle probes share. -/
structure Context where
  /-- The process id before the call under test. -/
  pidBefore : Option Int32 := none
  /-- A descriptor that is open across the call. -/
  witnessFd : Option Int32 := none
  /-- A memory cell that the call must leave alone. -/
  sentinel : UInt64 := 0
deriving DecidableEq, Repr

/-- Close the witness descriptor, if it is open; a failure is logged. -/
def closeWitness : Step Context Unit := do
  if let some fd := (← get).witnessFd then
    modify fun c => { c with witnessFd := none }
    if let .error e ← Step.attempt (.close fd) then
      Step.log
        { level := .warn, target := "sysprobe_core::application::groups::lifecycle",
          message := "Failed to close witness descriptor",
          fields := [("fd", .int fd.toInt), ("error", .text e.message)] }

/-- How an `execve` that came back did so. -/
def execResult : Except SyscallError Int64 → RawReturn
  | .ok ret => .ok ret
  | .error e => e.raw

/-- Note what an `execve` came back with. -/
def noteResult (request : ExecRequest) (result : RawReturn) : Judge Context Unit := do
  Judge.note "path" request.path.text
  Judge.note "ret" (Text.wordHex result.ret)
  if let some errno := result.errno then
    Judge.note "errno" (errno.name ++ " (" ++ Text.decimal errno.code ++ ")")

/-- The error for an `execve` that came back with something unforeseen. -/
def unexpectedResult (result : RawReturn) : ProbeError :=
  .unexpected ⟨.execve, result.ret, result.errno.getD .unknown⟩

/-- What is seen around an `execve` of a missing path. -/
structure MissingObservation where
  /-- How the call came back. -/
  result : RawReturn
  /-- The process id after it. -/
  pidAfter : Int32
  /-- A read from the witness descriptor after it. -/
  witnessRead : Except SyscallError UInt64
  /-- The memory cell after it. -/
  sentinelAfter : UInt64

/-- Execute a path that does not exist: `ENOENT`, and the caller keeps its id, its open descriptor
and its memory. -/
def execMissingProbe (request : ExecRequest) : Probe Context MissingObservation where
  spec := ⟨"execve_missing", [.execve], false⟩
  setup := do
    let pid ← Step.need "getpid before execve" .getpid
    modify fun c => { c with pidBefore := some pid }
    let fd ← Step.need "open witness descriptor"
      (.openAt Files.workingDirectory Files.nullDevice 0 0)
    modify fun c => { c with witnessFd := some fd, sentinel := sentinelValue }
  invoke := do
    match (← get).witnessFd with
    | none => Step.fail (.setup "no witness descriptor" none)
    | some fd =>
      let result ← Step.attempt (.execve request)
      let pidAfter ← Step.call .getpid
      let witnessRead ← Step.attempt (.read fd 1)
      return ⟨execResult result, pidAfter, witnessRead.map (·.count), (← get).sentinel⟩
  check observed := do
    let result := observed.result
    noteResult request result
    if result.succeeded then
      Judge.refute "execve of a missing path reported success" (some result)
    if result.errno != some .enoent then
      Judge.fail (unexpectedResult result)
    if let some before := (← Judge.context).pidBefore then
      if before != observed.pidAfter then
        Judge.refute ("caller pid changed from " ++ Text.integer before.toInt ++ " to "
          ++ Text.integer observed.pidAfter.toInt ++ " across a failed execve") (some result)
    if let .error e := observed.witnessRead then
      Judge.refute ("descriptor open before execve is unusable after it: " ++ e.message)
        (some e.raw)
    if observed.sentinelAfter != sentinelValue then
      Judge.refute ("memory changed across a failed execve: " ++ Text.hex sentinelValue.toNat
        ++ " became " ++ Text.hex observed.sentinelAfter.toNat) (some result)
  cleanup := do
    modify fun c => { c with pidBefore := none }
    closeWitness

/-- Execute an existing program. Under the replacing model a success never comes back, so one that
does is itself the failure. -/
def execExistingProbe (request : ExecRequest) (model : ExecModel) : Probe Context RawReturn where
  spec := ⟨"execve_existing", [.execve], model == .replace⟩
  invoke := return execResult (← Step.attempt (.execve request))
  check result := do
    noteResult request result
    Judge.note "model" model.name
    if !result.succeeded then
      Judge.fail (unexpectedResult result)
    if model = .replace then
      Judge.refute "execve returned to the caller, expected the process image to be replaced"
        (some result)

/-- The lifecycle group for the two requests. -/
def group (missing existing : ExecRequest) (model : ExecModel) : Group where
  Context := Context
  name := groupName
  start := {}
  trials := [(execMissingProbe missing).trial, (execExistingProbe existing model).trial]
  teardown := closeWitness

end KernelProbe.Lifecycle
