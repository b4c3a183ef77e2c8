import KernelProbe.Abi.Errno
import KernelProbe.Abi.Memory

/-!
# Address spaces

The mappings of a process and its program break. A mapping covers whole pages of 4096 bytes; a new
one is placed at the highest address where it fits. The program itself lies in the middle, so that
no mapping can be as large as the whole space.
-/

namespace KernelProbe.Host

/-- The mappings and the program break of a process. -/
structure AddressSpace where
  /-- The mappings by first address and number of bytes; no two overlap. -/
  mappings : List (Nat × Nat) := []
  /-- The program break. -/
  programBreak : Nat := 0x555555580000
deriving DecidableEq, Repr

namespace AddressSpace

/-- The size of a page. -/
def pageSize : Nat := 4096

/-- The first address that no process can use. -/
def limit : Nat := 0x800000000000 - pageSize

/-- The address below which mappings are placed. -/
def top : Nat := 0x7ffff7fff000

/-- The lowest address of a mapping. -/
def bottom : Nat := 0x10000

/-- The lowest program break. -/
def lowestBreak : Nat := 0x555555580000

/-- The highest program break. -/
def highestBreak : Nat := 0x5555d5580000

/-- `n` bytes in whole pages. -/
def wholePages (n : Nat) : Nat := (n + pageSize - 1) / pageSize * pageSize

/-- Where the program itself lies, from its first address to its lowest break. -/
def image : Nat × Nat := (0x555555554000, lowestBreak - 0x555555554000)

/-- How many bytes two ranges share. -/
def overlap (base stop : Nat) (mapping : Nat × Nat) : Nat :=
  min stop (mapping.1 + mapping.2) - max base mapping.1

/-- The highest place for `size` bytes: just below the top or something that is there already. -/
def place? (s : AddressSpace) (size : Nat) : Option Nat :=
  let taken := image :: s.mappings
  let fits (stop : Nat) : Bool :=
    bottom + size ≤ stop && taken.all fun mapping => overlap (stop - size) stop mapping == 0
  (((top :: taken.map (·.1)).filter fits).max?).map (· - size)

/-- Make a mapping and give its first address. -/
def map (s : AddressSpace) (length : Nat) : Except Errno (Nat × AddressSpace) :=
  if length = 0 then .error .einval
  else
    let size := wholePages length
    match s.place? size with
    | none => .error .enomem
    | some base => .ok (base, { s with mappings := (base, size) :: s.mappings })

/-- Whether every byte of a range is mapped. -/
def isMapped (s : AddressSpace) (base size : Nat) : Bool :=
  (s.mappings.map (overlap base (base + size))).foldr (· + ·) 0 == size

/-- Tell of each page of a range whether it is in memory: none is, because nothing touches them. -/
def residency (s : AddressSpace) (base length : Nat) : Except Errno (List UInt8) :=
  if base % pageSize ≠ 0 then .error .einval
  else if limit < base + length ∨ !s.isMapped base (wholePages length) then .error .enomem
  else .ok (List.replicate (wholePages length / pageSize) 0)

/-- What is left of a mapping without a range. -/
def remove (base stop : Nat) (mapping : Nat × Nat) : List (Nat × Nat) :=
  let (first, size) := mapping
  [(first, min base (first + size) - first), (max stop first, first + size - max stop first)].filter
    (·.2 != 0)

/-- Release every page of a range. -/
def unmap (s : AddressSpace) (base length : Nat) : Except Errno AddressSpace :=
  if base % pageSize ≠ 0 ∨ length = 0 ∨ limit < base + wholePages length then .error .einval
  else .ok { s with mappings := s.mappings.flatMap (remove base (base + wholePages length)) }

/-- Move the program break, if the address is a possible one, and give the new one. -/
def moveBreak (s : AddressSpace) (addr : Nat) : Nat × AddressSpace :=
  if lowestBreak ≤ addr ∧ addr ≤ highestBreak then (addr, { s with programBreak := addr })
  else (s.programBreak, s)

end AddressSpace

end KernelProbe.Host
