import KernelProbe.Abi.Errno
import KernelProbe.Abi.Syscall
import KernelProbe.Text.Numeral

/-!
# What a system call hands back

A `RawReturn` is the value in the return register together with the error number, if the call
failed. A `SyscallError` is a failed call: which one, what it returned and why. A `Fault` is what
unwinds when code gives up in the middle: a text, or a payload that has none.
-/

namespace KernelProbe

/-- The return value of a system call, and its error number if it failed. -/
structure RawReturn where
  /-- The value in the return register. -/
  ret : Int64
  /-- The error number, if the call failed. -/
  errno : Option Errno
deriving DecidableEq, Repr

namespace RawReturn

/-- The return of a call that did not fail. -/
def ok (ret : Int64) : RawReturn := ⟨ret, none⟩

/-- Whether the call did what it was asked: no error number and no negative value. -/
def succeeded (r : RawReturn) : Bool := r.errno.isNone && decide (0 ≤ r.ret)

end RawReturn

/-- A system call that failed. -/
structure SyscallError where
  /-- The call. -/
  syscall : Syscall
  /-- The value in the return register. -/
  ret : Int64
  /-- The error number. -/
  errno : Errno
deriving DecidableEq, Repr

namespace SyscallError

/-- The failure of `syscall` with the usual return value `-1`. -/
def of (syscall : Syscall) (errno : Errno) : SyscallError := ⟨syscall, -1, errno⟩

/-- The return value and error number. -/
def raw (e : SyscallError) : RawReturn := ⟨e.ret, some e.errno⟩

/-- The failure in words. -/
def message (e : SyscallError) : String :=
  e.syscall.name ++ " returned " ++ Text.integer e.ret.toInt ++ " (" ++ e.errno.name ++ ": "
    ++ e.errno.text ++ ")"

end SyscallError

/-- What unwinds when code gives up in the middle. -/
inductive Fault where
  /-- A payload that is a text. -/
  | text (message : String)
  /-- A payload of any other kind. -/
  | other
deriving DecidableEq, Repr

namespace Fault

/-- The fault in words. -/
def message : Fault → String
  | text s => s
  | other => "non-string panic payload"

/-- A quotient by zero. -/
def divideByZero : Fault := text "attempt to divide by zero"

/-- A sum that does not fit its word. -/
def addOverflow : Fault := text "attempt to add with overflow"

/-- A product that does not fit its word. -/
def multiplyOverflow : Fault := text "attempt to multiply with overflow"

/-- A buffer longer than the address space allows. -/
def capacityOverflow : Fault := text "capacity overflow"

/-- A buffer cut beyond its end. -/
def splitPastEnd : Fault := text "mid > len"

/-- A deadline beyond the clock's last second. -/
def instantOverflow : Fault := text "overflow when adding duration to instant"

end Fault

end KernelProbe
