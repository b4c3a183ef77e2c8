import KernelProbe.Abi.Memory

/-!
# Threads

The descriptor of a thread-local storage slot, the relation between the ids of a process and of its
first thread, and the child that `clone` makes: its id, its stack, and the word that the kernel
clears when it is gone.
-/

namespace KernelProbe

/-- The segment descriptor that `set_thread_area` fills in. -/
structure ThreadAreaDescriptor where
  /-- The slot, or `autoAssign` to have one picked. -/
  entryNumber : UInt32
  /-- The base address of the segment. -/
  baseAddr : UInt32
  /-- The limit of the segment. -/
  limit : UInt32
  /-- The segment's flag bits. -/
  flags : UInt32
deriving DecidableEq, Repr

namespace ThreadAreaDescriptor

/-- The slot number that asks the kernel to pick a free slot. -/
def autoAssign : UInt32 := 0xFFFFFFFF

/-- A flat, usable 32-bit data segment in the slot `entryNumber`. -/
def flat (entryNumber : UInt32) : ThreadAreaDescriptor := ⟨entryNumber, 0, 0xFFFFFFFF, 0x41⟩

/-- Whether a slot has been picked. -/
def isAssigned (d : ThreadAreaDescriptor) : Bool := d.entryNumber != autoAssign

end ThreadAreaDescriptor

/-- Slots from `lo` to `hi`, both included; none if `hi` is less. -/
structure SlotRange where
  /-- The first slot. -/
  lo : UInt32
  /-- The last slot. -/
  hi : UInt32
deriving DecidableEq, Repr

/-- Whether a slot is in the range. -/
def SlotRange.contains (r : SlotRange) (slot : UInt32) : Bool := r.lo ≤ slot && slot ≤ r.hi

/-- The slots that a 64-bit kernel hands out. -/
def SlotRange.tls : SlotRange := ⟨12, 14⟩

/-- How the id of the first thread relates to the id of its process. -/
inductive ThreadIdModel where
  /-- The two are equal. -/
  | matchesPid
  /-- The two differ. -/
  | distinct
  /-- Nothing is known but that both are positive. -/
  | unchecked
deriving DecidableEq, Repr

namespace ThreadIdModel

/-- The name of the model. -/
def name : ThreadIdModel → String
  | matchesPid => "matches_pid"
  | distinct => "distinct"
  | unchecked => "unchecked"

/-- Every model. -/
def all : List ThreadIdModel := [.matchesPid, .distinct, .unchecked]

/-- The model of a name. -/
def ofName? (name : String) : Option ThreadIdModel := all.find? (·.name == name)

/-- What is wrong with a thread id beside a process id, if anything is. -/
def mismatch? (model : ThreadIdModel) (tid pid : Int32) : Option String :=
  match model with
  | matchesPid =>
    if tid = pid then none
    else some ("initial thread tid " ++ Text.integer tid.toInt ++ " differs from pid "
      ++ Text.integer pid.toInt)
  | distinct =>
    if tid = pid then some ("initial thread tid " ++ Text.integer tid.toInt ++ " equals pid")
    else none
  | unchecked => none

end ThreadIdModel

/-- The stack of a clone child. -/
structure ThreadStack where
  /-- The number of bytes. -/
  size : UInt64
deriving DecidableEq, Repr

namespace ThreadStack

/-- A stack of `size` bytes, if a buffer can be that long. -/
def allocate (size : UInt64) : Except Fault ThreadStack :=
  if size.toNat ≤ maxBufferLength then .ok ⟨size⟩ else .error .capacityOverflow

/-- The first stack pointer of a child whose stack starts at the address `base`: the end of the
stack, rounded down to a multiple of 16. -/
def top (stack : ThreadStack) (base : Nat) : Nat :=
  let stop := base + stack.size.toNat
  stop - stop % 16

end ThreadStack

/-- A clone child and the memory that it borrows: its stack, and the word that holds its id until
the kernel clears it when the child is gone. -/
structure Child where
  /-- The thread id that `clone` returned. -/
  tid : Int32
  /-- The stack that the child runs on. -/
  stack : ThreadStack
  /-- The last known value of the word. -/
  word : UInt32
deriving DecidableEq, Repr

/-- Whether the kernel has cleared the word, so that the child is gone. -/
def Child.hasExited (c : Child) : Bool := c.word == 0

theorem Child.hasExited_iff {c : Child} : c.hasExited = true ↔ c.word = 0 := beq_iff_eq

end KernelProbe
