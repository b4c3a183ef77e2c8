/-!
# System calls

The system calls under test, with the names that they bear in the kernel's table.
-/

namespace KernelProbe

/-- A system call of the ABI under test. -/
inductive Syscall where
  /-- The call `write`. -/
  | write
  /-- The call `writev`. -/
  | writev
  /-- The call `set_thread_area`. -/
  | setThreadArea
  /-- The call `open`. -/
  | openFile
  /-- The call `openat`. -/
  | openAt
  /-- The call `read`. -/
  | read
  /-- The call `close`. -/
  | close
  /-- The call `brk`. -/
  | brk
  /-- The call `mmap`. -/
  | mmap
  /-- The call `mincore`. -/
  | mincore
  /-- The call `munmap`. -/
  | munmap
  /-- The call `gettid`. -/
  | gettid
  /-- The call `getpid`. -/
  | getpid
  /-- The call `futex`. -/
  | futex
  /-- The call `clone`. -/
  | clone
  /-- The call `uname`. -/
  | uname
  /-- The call `sched_yield`. -/
  | schedYield
  /-- The call `execve`. -/
  | execve
  /-- The call `exit`. -/
  | exit
  /-- The call `exit_group`. -/
  | exitGroup
deriving DecidableEq, Repr

namespace Syscall

/-- The name in the kernel's system call table. -/
def name : Syscall → String
  | write => "write"
  | writev => "writev"
  | setThreadArea => "set_thread_area"
  | openFile => "open"
  | openAt => "openat"
  | read => "read"
  | close => "close"
  | brk => "brk"
  | mmap => "mmap"
  | mincore => "mincore"
  | munmap => "munmap"
  | gettid => "gettid"
  | getpid => "getpid"
  | futex => "futex"
  | clone => "clone"
  | uname => "uname"
  | schedYield => "sched_yield"
  | execve => "execve"
  | exit => "exit"
  | exitGroup => "exit_group"

/-- Every system call, in declaration order. -/
def all : List Syscall :=
  [.write, .writev, .setThreadArea, .openFile, .openAt, .read, .close,
   .brk, .mmap, .mincore, .munmap, .gettid, .getpid, .futex,
   .clone, .uname, .schedYield, .execve, .exit, .exitGroup]

/-- The system call of a name. -/
def ofName? (name : String) : Option Syscall := all.find? (·.name == name)

@[simp] theorem ofName?_name (s : Syscall) : ofName? s.name = some s := by cases s <;> decide

end Syscall

end KernelProbe
