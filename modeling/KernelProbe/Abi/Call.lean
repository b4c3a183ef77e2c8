import KernelProbe.Abi.Exec
import KernelProbe.Abi.Thread
import KernelProbe.Time.Duration

/-!
# Kernel calls

A `Call` is a system call with its arguments, `Call.Value` the type of what it gives when it
succeeds. A word that the caller shares with the kernel is handed over by its value; the `Reply`
says what the kernel left in it.
-/

namespace KernelProbe

/-- What a read call gives: the count in the return register and the bytes it stored. -/
structure ReadData where
  /-- The value in the return register. -/
  count : UInt64
  /-- The bytes stored at the start of the buffer. -/
  bytes : List UInt8 := []
deriving DecidableEq, Repr

/-- A system call with its arguments. -/
inductive Call where
  /-- Write bytes to a descriptor. -/
  | write (fd : Int32) (bytes : List UInt8)
  /-- Write several byte strings to a descriptor, one after another. -/
  | writev (fd : Int32) (parts : List (List UInt8))
  /-- Set up a thread-local storage slot. -/
  | setThreadArea (descriptor : ThreadAreaDescriptor)
  /-- Open a path. -/
  | openFile (path : CText) (flags : Int32) (mode : UInt32)
  /-- Open a path, relative to a directory. -/
  | openAt (dirfd : Int32) (path : CText) (flags : Int32) (mode : UInt32)
  /-- Read at most `capacity` bytes from a descriptor. -/
  | read (fd : Int32) (capacity : Nat)
  /-- Close a descriptor. -/
  | close (fd : Int32)
  /-- Move the program break; the address 0 only asks for it. -/
  | brk (addr : UInt64)
  /-- Make a mapping. -/
  | mmap (request : MapRequest)
  /-- Ask which pages of a mapping are resident, into a vector of `capacity` bytes. -/
  | mincore (region : MemoryRegion) (capacity : Nat)
  /-- Release a mapping. -/
  | munmap (region : MemoryRegion)
  /-- Ask for the thread id. -/
  | gettid
  /-- Ask for the process id. -/
  | getpid
  /-- Sleep on a shared word while it holds the expected value. -/
  | futexWait (word expected : UInt32) (timeout : Option Duration)
  /-- Wake sleepers on a shared word. -/
  | futexWake (word : UInt32) (count : Int32)
  /-- Make a thread that exits at once with `status`, sharing the word for its id. -/
  | clone (stack : ThreadStack) (word : UInt32) (status : Int32)
  /-- Ask for the identification of the kernel. -/
  | uname
  /-- Give up the processor. -/
  | schedYield
  /-- Execute a program. -/
  | execve (request : ExecRequest)
deriving DecidableEq, Repr

namespace Call

/-- The system call that a call makes. -/
def syscall : Call → Syscall
  | write .. => .write
  | writev .. => .writev
  | setThreadArea .. => .setThreadArea
  | openFile .. => .openFile
  | openAt .. => .openAt
  | read .. => .read
  | close .. => .close
  | brk .. => .brk
  | mmap .. => .mmap
  | mincore .. => .mincore
  | munmap .. => .munmap
  | gettid => .gettid
  | getpid => .getpid
  | futexWait .. => .futex
  | futexWake .. => .futex
  | clone .. => .clone
  | uname => .uname
  | schedYield => .schedYield
  | execve .. => .execve

/-- What a call gives when it succeeds: the slot that was picked for `setThreadArea`, the mapping
for `mmap`, the bytes stored at the start of the vector for `mincore`, nothing for the calls that
are made for their effect, and else the value in the return register. -/
abbrev Value : Call → Type
  | write .. | writev .. | brk .. => UInt64
  | setThreadArea .. => UInt32
  | openFile .. | openAt .. | gettid | getpid | clone .. => Int32
  | read .. => ReadData
  | mmap .. => MemoryRegion
  | mincore .. => List UInt8
  | close .. | munmap .. | schedYield => Unit
  | futexWait .. | futexWake .. | execve .. => Int64
  | uname => UtsName

end Call

/-- How a call came back. -/
inductive Returned (α : Type) where
  /-- It succeeded. -/
  | value (a : α)
  /-- It failed. -/
  | failed (e : SyscallError)
  /-- The code that makes the call gave up. -/
  | panicked (fault : Fault)
deriving DecidableEq, Repr

/-- What a call leaves behind: the new value of the shared word, if the call changed it, and how the
call came back. -/
structure Reply (α : Type) where
  /-- What the call stored in the shared word that it was handed. -/
  stored : Option UInt32 := none
  /-- How the call came back. -/
  returned : Returned α
deriving DecidableEq, Repr

namespace Reply

/-- A plain success. -/
def value {α : Type} (a : α) : Reply α := ⟨none, .value a⟩

/-- A plain failure. -/
def failed {α : Type} (e : SyscallError) : Reply α := ⟨none, .failed e⟩

/-- A fault. -/
def panicked {α : Type} (fault : Fault) : Reply α := ⟨none, .panicked fault⟩

end Reply

end KernelProbe
