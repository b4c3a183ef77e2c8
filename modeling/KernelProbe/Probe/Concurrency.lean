import KernelProbe.Probe.Basic

/-!
# Concurrency probes

A futex wait that must be refused at once, a futex wake that finds nobody, a clone child that exits
at once, and a bounded wait until the kernel clears the child's word.

A child's memory may be freed only once its word reads 0. The group tracks at most one child; its
teardown gives up on a child that never confirmed its exit and keeps its memory.
-/

namespace KernelProbe.Concurrency

/-- The group's name. -/
def groupName : String := "concurrency"

/-- What the futex word holds during the refused wait. -/
def initialWord : UInt32 := 0

/-- What the refused wait expects. -/
def mismatchedWord : UInt32 := 42

/-- How many sleepers the wake asks for. -/
def wakeCount : Int32 := 42

/-- The size of the child's stack. -/
def stackSize : UInt64 := 0x4000

/-- The status that the child exits with. -/
def childStatus : Int32 := 42

/-- The target of the group's log events. -/
def logTarget : String := "sysprobe_core::application::groups::concurrency"

/-- What the concurrency probes share. -/
structure Context where
  /-- The last known value of the futex word. -/
  word : UInt32 := 0
  /-- The child that is tracked. -/
  child : Option Child := none
  /-- Children that were given up and keep their memory. -/
  abandoned : List Child := []
deriving DecidableEq, Repr

namespace Context

/-- Keep the new value of the futex word. -/
def storeWord (word : UInt32) (c : Context) : Context := { c with word }

/-- Keep the new value of the tracked child's word. -/
def storeChildWord (word : UInt32) (c : Context) : Context :=
  { c with child := c.child.map fun child => { child with word } }

end Context

/-! ## Futex -/

/-- How a wait came back, and after how long. -/
structure WaitObservation where
  /-- What the call returned. -/
  result : Except SyscallError Int64
  /-- The time that it took. -/
  elapsed : Duration

/-- Wait on a word that does not hold the expected value: the kernel must refuse with `EAGAIN`. -/
def futexWaitProbe (timeout : Duration) : Probe Context WaitObservation where
  spec := ⟨"futex_wait_mismatch", [.futex], false⟩
  setup := modify (·.storeWord initialWord)
  invoke := do
    let started ← Step.clock
    let result ← Step.attemptStoring
      (.futexWait (← get).word mismatchedWord (some timeout)) Context.storeWord
    return ⟨result, (← Step.clock).since started⟩
  check observed := do
    Judge.noteNat "word" initialWord.toNat
    Judge.noteNat "expected" mismatchedWord.toNat
    Judge.noteNat "elapsed_us" observed.elapsed.micros
    match observed.result with
    | .ok ret =>
      Judge.refute "wait on a mismatched value returned success instead of EAGAIN" (some (.ok ret))
    | .error e =>
      if e.errno = .eagain then Judge.note "errno" "EAGAIN"
      else if e.errno = .etimedout then
        Judge.refute ("wait blocked until the " ++ timeout.text
          ++ " timeout despite the value mismatch") (some e.raw)
      else Judge.fail (.unexpected e)

/-- Wake sleepers on a word on which nobody sleeps: the kernel must find none. -/
def futexWakeProbe (count : Int32) : Probe Context Int64 where
  spec := ⟨"futex_wake", [.futex], false⟩
  invoke := do
    match ← Step.attemptStoring (.futexWake (← get).word count) Context.storeWord with
    | .ok woken => return woken
    | .error e => Step.fail (.unexpected e)
  check woken := do
    Judge.noteInt "requested" count.toInt
    Judge.noteInt "woken" woken.toInt
    if woken != 0 then
      Judge.refute ("woke " ++ Text.integer woken.toInt ++ " waiters but none were blocked")
        (some (.ok woken))

/-! ## Clone and join -/

/-- Make a child that exits at once. It is tracked as soon as the call succeeds. -/
def cloneProbe (size : UInt64) (status : Int32) : Probe Context Int32 where
  spec := ⟨"clone", [.clone, .exit], false⟩
  setup := do
    unless ← Step.supports .clone do
      Step.fail (.setup "no clone trampoline for this architecture" none)
    if (← get).child.isSome then
      Step.fail (.setup "a clone child from this group is still tracked" none)
  invoke := do
    let stack ← Step.ofExcept (ThreadStack.allocate size)
    let reply ← Step.ask (.call (.clone stack 0 status))
    match reply.returned with
    | .value tid =>
      modify fun c => { c with child := some ⟨tid, stack, reply.stored.getD 0⟩ }
      return tid
    | .failed e => Step.fail (.unexpected e)
    | .panicked fault => Step.panic fault
  check tid := do
    Judge.noteInt "child_tid" tid.toInt
    Judge.note "stack_size" (Text.hex size.toNat)
    Judge.noteInt "exit_status" status.toInt
    if tid ≤ 0 then
      Judge.refute ("clone returned " ++ Text.integer tid.toInt ++ " instead of a child tid")
        (some (.ok tid.toInt64))

/-- How a join came out. -/
structure JoinObservation where
  /-- The child's thread id. -/
  tid : Int32
  /-- Whether the kernel cleared the child's word. -/
  joined : Bool
  /-- How often the join waited. -/
  waits : UInt32
  /-- The time that it took. -/
  elapsed : Duration
deriving DecidableEq, Repr

/-- Whether a failed wait on the child's word only means that it is time to look again. -/
def isRetry (e : SyscallError) : Bool :=
  e.errno == .eagain || e.errno == .eintr || e.errno == .etimedout

/-- Wait once on the child's word for at most `timeout`; if the kernel cannot wait, give up the
processor instead. -/
def awaitOnce (word : UInt32) (timeout : Duration) : Step Context Unit := do
  if let .error e ← Step.attemptStoring (.futexWait word word (some timeout))
      Context.storeChildWord then
    unless isRetry e do
      Step.log
        { level := .debug, target := logTarget,
          message := "futex wait on tid word failed, yielding",
          fields := [("error", .text e.message)] }
      Step.call .schedYield

/-- The greatest number of waits that the counter of a join can hold. -/
def maxWaits : Nat := UInt32.size - 1

/-- Look at the child's word and at the clock: the join is over if the word reads 0 or the deadline
has passed, else there is a word to wait on and time left. -/
def look (child : Child) (started deadline : Instant) (waits : Nat) :
    Step Context (JoinObservation ⊕ UInt32 × Duration) := do
  let word ← Step.load (((← get).child.map (·.word)).getD 0)
  modify (·.storeChildWord word)
  let now ← Step.clock
  if word = 0 ∨ deadline.nanos ≤ now.nanos then
    let ended ← Step.clock
    return .inl ⟨child.tid, word == 0, UInt32.ofNat waits, ended.since started⟩
  else return .inr (word, deadline.since now)

/-- Look and wait in turn until the join is over; `left` more waits fit the counter. -/
def joinLoop (child : Child) (started deadline : Instant) : Nat → Step Context JoinObservation
  | 0 => do
    match ← look child started deadline maxWaits with
    | .inl observed => return observed
    | .inr _ => Step.panic .addOverflow
  | left + 1 => do
    match ← look child started deadline (maxWaits - (left + 1)) with
    | .inl observed => return observed
    | .inr (word, remaining) =>
      awaitOnce word remaining
      joinLoop child started deadline left

/-- Wait, within the timeout, until the kernel clears the word of the tracked child. -/
def joinProbe (timeout : Duration) : Probe Context JoinObservation where
  spec := ⟨"clone_join", [.futex], false⟩
  setup := do
    if (← get).child.isNone then
      Step.fail (.setup "no clone child to join" none)
  invoke := do
    match (← get).child with
    | none => Step.fail (.setup "no clone child to join" none)
    | some child =>
      let started ← Step.clock
      match started.add? timeout with
      | none => Step.panic .instantOverflow
      | some deadline => joinLoop child started deadline maxWaits
  check observed := do
    Judge.noteInt "child_tid" observed.tid.toInt
    Judge.noteNat "waits" observed.waits.toNat
    Judge.noteNat "elapsed_us" observed.elapsed.micros
    if !observed.joined then
      Judge.refute ("child " ++ Text.integer observed.tid.toInt
        ++ " did not clear its tid word within " ++ timeout.text) none
    Judge.update fun c => { c with child := none }

/-! ## The group -/

/-- Let go of the tracked child: free its memory if it has exited by what its word reads, else give
it up. -/
def teardown : Step Context Unit := do
  match (← get).child with
  | none => pure ()
  | some child =>
    let word ← Step.load child.word
    if Child.hasExited { child with word } then
      modify fun c => { c with child := none }
    else
      Step.log
        { level := .warn, target := logTarget,
          message := "Clone child never confirmed exit, leaking its stack",
          fields := [("tid", .int child.tid.toInt)] }
      modify fun c =>
        { c with child := none, abandoned := { child with word } :: c.abandoned }

/-- The concurrency group. -/
def group (waitTimeout joinTimeout : Duration) : Group where
  Context := Context
  name := groupName
  start := {}
  trials := [(futexWaitProbe waitTimeout).trial, (futexWakeProbe wakeCount).trial,
    (cloneProbe stackSize childStatus).trial, (joinProbe joinTimeout).trial]
  teardown := teardown

end KernelProbe.Concurrency
