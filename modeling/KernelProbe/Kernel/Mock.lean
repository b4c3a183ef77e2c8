import KernelProbe.Program.Execution

/-!
# The mock kernel

A kernel in memory for tests of the battery. A fresh one behaves like a healthy kernel that makes a
new process on `execve`; it can be told to lack calls, to fail or give up in one, and to answer with
other values. It keeps a list of the calls that reached it.

Descriptors are handed out in ascending order, mappings at ascending addresses with a free page
between neighbours. A mapping whose successor would not fit the address space breaks the kernel: it
gives up at once, and in every later call.
-/

namespace KernelProbe

/-- The state of the mock kernel. -/
structure MockKernel where
  /-- The calls that were made, in order. -/
  calls : List Syscall := []
  /-- Calls that fail, with their error numbers. -/
  failures : List (Syscall × Errno) := []
  /-- Calls that are not part of the ABI. -/
  unsupported : List Syscall := []
  /-- A call that gives up. -/
  panicOn : Option Syscall := none
  /-- The bytes that were written. -/
  written : List UInt8 := []
  /-- The slot that is handed out. -/
  tlsSlot : UInt32 := 12
  /-- The process id. -/
  pid : Int32 := 100
  /-- The thread id. -/
  tid : Int32 := 100
  /-- The program break. -/
  programBreak : UInt64 := 0x600000
  /-- The address of the next mapping. -/
  nextMapBase : UInt64 := 0x7f0000000000
  /-- The number of entries that a residency query fills; by default one for each page. -/
  mincoreEntries : Option UInt64 := none
  /-- The addresses of the mappings that were released. -/
  unmapped : List UInt64 := []
  /-- The next descriptor. -/
  nextFd : Int32 := 3
  /-- The open descriptors. -/
  openFds : List Int32 := []
  /-- The descriptors that were closed. -/
  closedFds : List Int32 := []
  /-- Whether `execve` closes every descriptor, even when it fails. -/
  dropFdsOnExec : Bool := false
  /-- The id of a clone child. -/
  childTid : Int32 := 101
  /-- Whether a clone child exits visibly. -/
  childExits : Bool := true
  /-- The paths of the programs that exist. -/
  executables : List String := ["/usr/statx"]
  /-- What a successful `execve` returns. -/
  execReturn : Int64 := 0
  /-- The paths that were executed. -/
  execPaths : List String := []
  /-- Whether the kernel broke down. -/
  poisoned : Bool := false
deriving DecidableEq, Repr

namespace MockKernel

/-- The size of a page. -/
def pageSize : Nat := 0x1000

/-- The fault of every call after the kernel broke down. -/
def poison : Fault :=
  .text "called `Result::unwrap()` on an `Err` value: PoisonError \x7b .. \x7d"

/-- The kernel after it broke down in the middle of a call. -/
def breakDown {α : Type} (fault : Fault) (m : MockKernel) : Reply α × MockKernel :=
  (.panicked fault, { m with poisoned := true })

/-- Hand out the next descriptor. -/
def allocateDescriptor (m : MockKernel) : Reply Int32 × MockKernel :=
  if m.nextFd = Int32.maxValue then m.breakDown .addOverflow
  else (.value m.nextFd, { m with nextFd := m.nextFd + 1, openFds := m.openFds ++ [m.nextFd] })

/-- The address behind a mapping at `base` and the free page after it. -/
def nextBase (base length : UInt64) : Except Fault UInt64 :=
  let pages := (length.toNat + pageSize - 1) / pageSize * pageSize
  if UInt64.size ≤ pages then .error .multiplyOverflow
  else if UInt64.size ≤ pages + pageSize then .error .addOverflow
  else if UInt64.size ≤ base.toNat + (pages + pageSize) then .error .addOverflow
  else .ok (UInt64.ofNat (base.toNat + (pages + pageSize)))

/-- The identification of the mock kernel. -/
def identification : UtsName :=
  ⟨"Linux", "mock", "6.0.0", "#1 SMP", "x86_64", "(none)"⟩

/-- Serve a call that is neither told to fail nor to give up. -/
def serve (m : MockKernel) : (c : Call) → Reply c.Value × MockKernel
  | .write _ bytes =>
    (.value (UInt64.ofNat bytes.length), { m with written := m.written ++ bytes })
  | .writev _ parts =>
    (.value (UInt64.ofNat parts.flatten.length), { m with written := m.written ++ parts.flatten })
  | .setThreadArea descriptor =>
    (.value (if descriptor.isAssigned then descriptor.entryNumber else m.tlsSlot), m)
  | .openFile .. => m.allocateDescriptor
  | .openAt .. => m.allocateDescriptor
  | .read fd _ =>
    if fd ∈ m.openFds then (.value { count := 0 }, m) else (.failed (.of .read .ebadf), m)
  | .close fd =>
    if fd ∈ m.openFds then
      (.value (), { m with openFds := m.openFds.erase fd, closedFds := m.closedFds ++ [fd] })
    else (.failed (.of .close .ebadf), m)
  | .brk _ => (.value m.programBreak, m)
  | .mmap request =>
    match nextBase m.nextMapBase request.length with
    | .ok next => (.value (.ofRequest m.nextMapBase request), { m with nextMapBase := next })
    | .error fault => m.breakDown fault
  | .mincore region capacity =>
    let filled := match m.mincoreEntries with
      | some n => n.toNat
      | none => (region.length.toNat + pageSize - 1) / pageSize
    (.value (List.replicate (min filled capacity) 0), m)
  | .munmap region => (.value (), { m with unmapped := m.unmapped ++ [region.base] })
  | .gettid => (.value m.tid, m)
  | .getpid => (.value m.pid, m)
  | .futexWait word expected timeout =>
    if word ≠ expected then (.failed (.of .futex .eagain), m)
    else match timeout with
      | some _ => (.failed (.of .futex .etimedout), m)
      | none => (.panicked (.text "mock futex_wait would block forever"), m)
  | .futexWake .. => (.value 0, m)
  | .clone .. =>
    if m.childExits then
      (⟨some 0, .value m.childTid⟩, { m with calls := m.calls ++ [.exit] })
    else (⟨some m.childTid.toUInt32, .value m.childTid⟩, m)
  | .uname => (.value identification, m)
  | .schedYield => (.value (), m)
  | .execve request =>
    let path := request.path.text
    let m := { m with
      execPaths := m.execPaths ++ [path],
      openFds := if m.dropFdsOnExec then [] else m.openFds }
    if path ∈ m.executables then (.value m.execReturn, m)
    else (.failed (.of .execve .enoent), m)

/-- Make a call: it is noted, then it gives up or fails if it was told to, else it is served. -/
def call (m : MockKernel) (c : Call) : Reply c.Value × MockKernel :=
  if m.poisoned then (.panicked poison, m)
  else
    let m := { m with calls := m.calls ++ [c.syscall] }
    if m.panicOn = some c.syscall then
      (.panicked (.text ("mock kernel panic in " ++ c.syscall.name)), m)
    else match m.failures.lookup c.syscall with
      | some errno => (.failed (.of c.syscall errno), m)
      | none => m.serve c

/-- Whether a call is part of the ABI. -/
def supports (m : MockKernel) (s : Syscall) : Except Fault Bool :=
  if m.poisoned then .error poison else .ok (s ∉ m.unsupported)

/-- How often a call was made. -/
def callCount (m : MockKernel) (s : Syscall) : Except Fault Nat :=
  if m.poisoned then .error poison else .ok (m.calls.count s)

/-- The fault of asking the mock kernel to end the process, which it cannot. -/
def exitGroup (status : Int32) : Fault :=
  .text ("mock exit_group(" ++ Text.integer status.toInt ++ ")")

end MockKernel

end KernelProbe
