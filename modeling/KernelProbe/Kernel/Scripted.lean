import KernelProbe.Kernel.Mock

/-!
# The scripted kernel

A mock kernel with a queue of prepared replies for each kind of call. A call takes the next reply of
its queue; when the queue is empty, or the reply says so, the call goes through to the mock kernel.
The scripted kernel also keeps the clock: every reading takes a little time, and a wait that the
mock kernel would let time out takes its whole timeout.
-/

namespace KernelProbe

/-- A value that a call is made to give. -/
inductive ScriptValue where
  /-- A number, which wraps to the width of the call's value. -/
  | int (i : Int)
  /-- Bytes for a residency vector. -/
  | bytes (b : List UInt8)
  /-- An identification. -/
  | uts (u : UtsName)
deriving DecidableEq, Repr

namespace ScriptValue

/-- The number, or 0. -/
def toInt : ScriptValue → Int
  | int i => i
  | _ => 0

/-- The bytes, or none. -/
def toBytes : ScriptValue → List UInt8
  | bytes b => b
  | _ => []

/-- The identification, or an empty one. -/
def toUts : ScriptValue → UtsName
  | uts u => u
  | _ => {}

/-- The value that it stands for in a call. -/
def valueFor (v : ScriptValue) : (c : Call) → c.Value
  | .write .. => UInt64.ofInt v.toInt
  | .writev .. => UInt64.ofInt v.toInt
  | .setThreadArea _ => UInt32.ofInt v.toInt
  | .openFile .. => Int32.ofInt v.toInt
  | .openAt .. => Int32.ofInt v.toInt
  | .read .. => { count := UInt64.ofInt v.toInt }
  | .close _ => ()
  | .brk _ => UInt64.ofInt v.toInt
  | .mmap request => .ofRequest (UInt64.ofInt v.toInt) request
  | .mincore .. => v.toBytes
  | .munmap _ => ()
  | .gettid => Int32.ofInt v.toInt
  | .getpid => Int32.ofInt v.toInt
  | .futexWait .. => Int64.ofInt v.toInt
  | .futexWake .. => Int64.ofInt v.toInt
  | .clone .. => Int32.ofInt v.toInt
  | .uname => v.toUts
  | .schedYield => ()
  | .execve _ => Int64.ofInt v.toInt

end ScriptValue

/-- What a prepared reply does. -/
inductive ScriptAction where
  /-- Give up with a text. -/
  | panic (message : String)
  /-- Fail. -/
  | fail (errno : Errno) (ret : Int64)
  /-- Succeed. -/
  | succeed (value : ScriptValue)
  /-- Go through to the mock kernel. -/
  | passThrough
deriving DecidableEq, Repr

/-- A prepared reply. -/
structure ScriptedReply where
  /-- What it does. -/
  action : ScriptAction
  /-- What it stores first in the word of a futex wait. -/
  store : Option UInt32 := none
  /-- What a successful clone leaves in the word for the child's id; by default the id. -/
  word : Option UInt32 := none
deriving DecidableEq, Repr

/-- Replies for each kind of call, the next one first. -/
abbrev Script := List (String × List ScriptedReply)

namespace Script

/-- Take the next reply for a kind of call. -/
def next? (kind : String) : Script → Option (ScriptedReply × Script)
  | [] => none
  | (name, replies) :: rest =>
    if name = kind then match replies with
      | [] => none
      | reply :: others => some (reply, (name, others) :: rest)
    else (next? kind rest).map fun (reply, rest) => (reply, (name, replies) :: rest)

/-- Add replies behind those for a kind of call. -/
def add (kind : String) (replies : List ScriptedReply) : Script → Script
  | [] => [(kind, replies)]
  | (name, held) :: rest =>
    if name = kind then (name, held ++ replies) :: rest else (name, held) :: add kind replies rest

end Script

/-- The kind of a call in a script; the two futex calls are apart. -/
def Call.kind : Call → String
  | .futexWait .. => "futex_wait"
  | .futexWake .. => "futex_wake"
  | c => c.syscall.name

/-- The state of the scripted kernel. -/
structure ScriptedKernel where
  /-- The mock kernel behind the script. -/
  mock : MockKernel := {}
  /-- The replies that are left. -/
  script : Script := []
  /-- The time, in nanoseconds. -/
  now : Nat := 4000 * Duration.nanosPerSecond
deriving DecidableEq, Repr

namespace ScriptedKernel

/-- How long a reading of the clock takes, in nanoseconds. -/
def tick : Nat := 50

/-- Let time pass. -/
def sleep (d : Duration) (s : ScriptedKernel) : ScriptedKernel := { s with now := s.now + d.nanos }

/-- A wait that the mock kernel would let time out takes its timeout. -/
def block (c : Call) (s : ScriptedKernel) : ScriptedKernel :=
  match c with
  | .futexWait word expected (some timeout) => if word = expected then s.sleep timeout else s
  | _ => s

/-- Hand a call through to the mock kernel. -/
def passOn (c : Call) (s : ScriptedKernel) : Reply c.Value × ScriptedKernel :=
  let s := s.block c
  let (reply, mock) := s.mock.call c
  (reply, { s with mock })

/-- The word that a successful clone leaves, unless the script says otherwise, is the child's id. -/
def cloneWord (reply : ScriptedReply) (value : ScriptValue) : Call → Option UInt32
  | .clone .. => some (reply.word.getD (UInt32.ofInt value.toInt))
  | _ => none

/-- Answer a call as a prepared reply says. -/
def play (reply : ScriptedReply) (c : Call) (s : ScriptedKernel) : Reply c.Value × ScriptedKernel :=
  match reply.action with
  | .panic message => (.panicked (.text message), s)
  | .fail errno ret => (.failed ⟨c.syscall, ret, errno⟩, s)
  | .succeed value => (⟨cloneWord reply value c, .value (value.valueFor c)⟩, s)
  | .passThrough => s.passOn c

/-- Answer a call: a prepared reply for a futex wait first stores into the word. -/
def call (c : Call) (s : ScriptedKernel) : Reply c.Value × ScriptedKernel :=
  match s.script.next? c.kind with
  | none => s.passOn c
  | some (reply, script) =>
    let s := { s with script }
    match c, reply.store with
    | .futexWait _ expected timeout, some word =>
      let (answer, s) := play reply (.futexWait word expected timeout) s
      (⟨some word, answer.returned⟩, s)
    | c, _ => play reply c s

/-- The scripted kernel as a machine that answers programs. -/
def machine : Kernel ScriptedKernel where
  supports syscall s := (s.mock.supports syscall, s)
  call := call
  clock s := (⟨s.now⟩, { s with now := s.now + tick })
  load last s := (last, s)

end ScriptedKernel

end KernelProbe
