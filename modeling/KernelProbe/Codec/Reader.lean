import KernelProbe.Codec.Decode
import KernelProbe.Time.Duration

/-!
# Reading descriptions

A reader takes a JSON value to a value of the domain or says why it cannot: the description has not
the right shape, or it has, but what stands there names nothing.
-/

namespace KernelProbe

/-- Why a description cannot be read. -/
inductive ReadError where
  /-- It has not the right shape. -/
  | malformed
  /-- What stands there names nothing. -/
  | undecodable
deriving DecidableEq, Repr

/-- A value that is read, or why it cannot be. -/
abbrev Read := Except ReadError

namespace Read

/-- A value that has the right shape. -/
def shaped {α : Type} (a : Option α) : Read α := a.elim (.error .malformed) .ok

/-- A value that names something. -/
def decoded {α : Type} (a : Option α) : Read α := a.elim (.error .undecodable) .ok

/-- A field that may be missing. -/
def fieldIf {α : Type} (j : Json) (name : String) (read : Json → Read α) : Read (Option α) :=
  match j.field? name with
  | none => .ok none
  | some v => (read v).map some

/-- A field with a value for when it is missing. -/
def fieldOr {α : Type} (j : Json) (name : String) (read : Json → Read α) (usual : α) : Read α :=
  (fieldIf j name read).map (·.getD usual)

/-- A field that must be there. -/
def field {α : Type} (j : Json) (name : String) (read : Json → Read α) : Read α := do
  shaped (← fieldIf j name read)

/-- A value as it is. -/
def value (j : Json) : Read Json := .ok j

/-- A text. -/
def text (j : Json) : Read String := shaped j.text?

/-- A truth value. -/
def flag (j : Json) : Read Bool := shaped j.bool?

/-- A signed word. -/
def int32 (j : Json) : Read Int32 := shaped j.int32?

/-- A signed long word. -/
def int64 (j : Json) : Read Int64 := shaped j.int64?

/-- A word. -/
def uint32 (j : Json) : Read UInt32 := shaped j.uint32?

/-- A long word. -/
def uint64 (j : Json) : Read UInt64 := shaped j.uint64?

/-- An array of values. -/
def items {α : Type} (read : Json → Read α) (j : Json) : Read (List α) := do
  (← shaped j.items?).mapM read

/-- An array of texts. -/
def texts : Json → Read (List String) := items text

/-- An array of pairs of texts. -/
def pairs (j : Json) : Read (List (String × String)) := shaped (j.list? Json.pair?)

/-- An object of texts. -/
def table (j : Json) : Read (List (String × String)) := do
  (← shaped j.fields?).mapM fun (name, v) => return (name, ← text v)

/-- A duration as its seconds and the nanoseconds beyond them. -/
def duration (j : Json) : Read Duration := do
  match ← items uint64 j with
  | [s, n] =>
    if n.toNat < Duration.nanosPerSecond then return .ofParts s.toNat n.toNat
    else throw .malformed
  | _ => throw .malformed

/-- A byte. -/
def byte? (j : Json) : Option UInt8 := (j.intBetween? 0 255).map UInt8.ofInt

/-- An array of bytes. -/
def bytes (j : Json) : Read (List UInt8) := decoded (j.list? byte?)

/-- A system call by its name. -/
def syscall (j : Json) : Read Syscall := decoded (Syscall.ofJson? j)

/-- An array of system calls. -/
def syscalls : Json → Read (List Syscall) := items syscall

/-- An error number by its code. -/
def errno (j : Json) : Read Errno := return .ofCode (← int32 j).toInt

/-- A return value with its error number. -/
def rawReturn (j : Json) : Read RawReturn :=
  return ⟨← field j "ret" int64, ← fieldIf j "errno" errno⟩

/-- A system call that failed. -/
def syscallError (j : Json) : Read SyscallError :=
  return ⟨← field j "syscall" syscall, ← field j "ret" int64, ← field j "errno" errno⟩

end Read

end KernelProbe
