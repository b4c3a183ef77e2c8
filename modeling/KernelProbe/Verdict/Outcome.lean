import KernelProbe.Abi.SyscallError

/-!
# Outcomes

The `Outcome` of a probe is a pass, or a failure or skip with a `Diagnosis`. A diagnosis names its
kind, says in words what went wrong, and carries the return value and error number of the system
call that showed it, if there was one.
-/

namespace KernelProbe

/-- Why a probe did not pass. -/
inductive FailureKind where
  /-- What the probe needs could not be had. -/
  | setupFailure
  /-- The kernel broke the contract. -/
  | assertionFailure
  /-- A call failed for a reason that the contract does not foresee. -/
  | unexpectedSyscallError
  /-- The probe gave up in the middle. -/
  | panicked
  /-- The filter shut the probe out. -/
  | disabled
deriving DecidableEq, Repr

namespace FailureKind

/-- The name of a kind. -/
def name : FailureKind → String
  | setupFailure => "SETUP_FAILURE"
  | assertionFailure => "ASSERTION_FAILURE"
  | unexpectedSyscallError => "UNEXPECTED_SYSCALL_ERROR"
  | panicked => "PANICKED"
  | disabled => "DISABLED"

/-- Every kind. -/
def all : List FailureKind :=
  [.setupFailure, .assertionFailure, .unexpectedSyscallError, .panicked, .disabled]

/-- The kind of a name. -/
def ofName? (name : String) : Option FailureKind := all.find? (·.name == name)

@[simp] theorem ofName?_name (k : FailureKind) : ofName? k.name = some k := by cases k <;> decide

end FailureKind

/-- What went wrong with a probe. -/
structure Diagnosis where
  /-- The kind of failure. -/
  kind : FailureKind
  /-- The failure in words. -/
  message : String
  /-- The value that the call returned. -/
  rawReturn : Option Int64
  /-- The code of the call's error number. -/
  errno : Option Int32
  /-- The name of the call's error number. -/
  errnoName : Option String
deriving DecidableEq, Repr

namespace Diagnosis

/-- The diagnosis of a failure that the return of a call showed. -/
def of (kind : FailureKind) (message : String) (observed : Option RawReturn) : Diagnosis where
  kind := kind
  message := message
  rawReturn := observed.map (·.ret)
  errno := (observed.bind (·.errno)).map fun e => Int32.ofNat e.code
  errnoName := (observed.bind (·.errno)).map Errno.name

/-- The diagnosis on one line: its kind, its words, and the call's return behind them. -/
def text (d : Diagnosis) : String :=
  let tail := match d.rawReturn with
    | none => ""
    | some ret =>
      let number := match d.errnoName, d.errno with
        | some name, some code => ", errno=" ++ name ++ " " ++ Text.integer code.toInt
        | _, _ => ""
      " (ret=" ++ Text.integer ret.toInt ++ number ++ ")"
  "[" ++ d.kind.name ++ "] " ++ d.message ++ tail

end Diagnosis

/-- The verdict on a probe. -/
inductive Outcome where
  /-- The kernel keeps the contract. -/
  | pass
  /-- It does not. -/
  | fail (diagnosis : Diagnosis)
  /-- The probe could not tell. -/
  | skipped (diagnosis : Diagnosis)
deriving DecidableEq, Repr

namespace Outcome

/-- The verdict in one word. -/
def verdict : Outcome → String
  | pass => "PASS"
  | fail _ => "FAIL"
  | skipped _ => "SKIPPED"

/-- Whether the probe passed. -/
def isPass : Outcome → Bool
  | pass => true
  | _ => false

/-- Whether the probe failed. -/
def isFail : Outcome → Bool
  | fail _ => true
  | _ => false

/-- Whether the probe was skipped. -/
def isSkipped : Outcome → Bool
  | skipped _ => true
  | _ => false

/-- What went wrong, unless the probe passed. -/
def diagnosis? : Outcome → Option Diagnosis
  | pass => none
  | fail d | skipped d => some d

end Outcome

end KernelProbe
