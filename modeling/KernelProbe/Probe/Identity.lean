import KernelProbe.Probe.Basic

/-!
# Identity probes

`set_thread_area` with a slot that the kernel picks, `getpid`, `gettid` judged beside the process
id, and `sched_yield`.
-/

namespace KernelProbe.Identity

/-- The group's name. -/
def groupName : String := "identity"

/-- What the identity probes share. -/
structure Context where
  /-- The process id, once it is known. -/
  pid : Option Int32 := none
deriving DecidableEq, Repr

/-- Have a slot picked; it must be one of `slots`. -/
def setThreadAreaProbe (slots : SlotRange) : Probe Context ThreadAreaDescriptor where
  spec := ⟨"set_thread_area", [.setThreadArea], false⟩
  setup := do
    unless ← Step.supports .setThreadArea do
      Step.fail (.setup "set_thread_area is not part of this architecture's syscall ABI" none)
  invoke := do
    let descriptor := ThreadAreaDescriptor.flat ThreadAreaDescriptor.autoAssign
    match ← Step.attempt (.setThreadArea descriptor) with
    | .ok slot => return { descriptor with entryNumber := slot }
    | .error e =>
      if e.errno = .enosys then
        Step.fail (.setupCall "set_thread_area is not implemented by this kernel" e)
      else Step.fail (.unexpected e)
  check descriptor := do
    let slot := descriptor.entryNumber
    Judge.noteNat "entry_number" slot.toNat
    if !descriptor.isAssigned then
      Judge.refute "kernel left the auto-assign sentinel in entry_number" (some (.ok 0))
    if !slots.contains slot then
      Judge.refute ("slot " ++ Text.decimal slot.toNat ++ " outside the valid range "
        ++ Text.decimal slots.lo.toNat ++ "..=" ++ Text.decimal slots.hi.toNat) (some (.ok 0))

/-- Ask for the process id; it must be positive. -/
def getpidProbe : Probe Context Int32 where
  spec := ⟨"getpid", [.getpid], false⟩
  invoke := Step.call .getpid
  check pid := do
    Judge.noteInt "pid" pid.toInt
    if pid ≤ 0 then
      Judge.refute ("pid " ++ Text.integer pid.toInt ++ " is not positive")
        (some (.ok pid.toInt64))
    Judge.update fun c => { c with pid := some pid }

/-- Ask for the thread id; it must be positive and relate to the process id as the model says. -/
def gettidProbe (model : ThreadIdModel) : Probe Context Int32 where
  spec := ⟨"gettid", [.gettid], false⟩
  setup := do
    if (← get).pid.isNone && model != .unchecked then
      let pid ← Step.need "getpid for tid comparison" .getpid
      modify fun c => { c with pid := some pid }
  invoke := Step.call .gettid
  check tid := do
    Judge.noteInt "tid" tid.toInt
    Judge.note "model" model.name
    if tid ≤ 0 then
      Judge.refute ("tid " ++ Text.integer tid.toInt ++ " is not positive")
        (some (.ok tid.toInt64))
    if let some pid := (← Judge.context).pid then
      if let some mismatch := model.mismatch? tid pid then
        Judge.refute mismatch (some (.ok tid.toInt64))

/-- Give up the processor; nothing but success is asked. -/
def schedYieldProbe : Probe Context Unit where
  spec := ⟨"sched_yield", [.schedYield], false⟩
  invoke := Step.call .schedYield
  check _ := pure ()

/-- The identity group. -/
def group (slots : SlotRange) (model : ThreadIdModel) : Group where
  Context := Context
  name := groupName
  start := {}
  trials := [(setThreadAreaProbe slots).trial, getpidProbe.trial, (gettidProbe model).trial,
    schedYieldProbe.trial]

end KernelProbe.Identity
