import KernelProbe.Abi.SyscallError

/-!
# Memory mappings

A `MapRequest` says what mapping is wanted, a `MemoryRegion` is a mapping that the kernel made.
`residencyLength` counts the entries that a residency query fills for a mapping, one for each page
or part of a page.
-/

namespace KernelProbe

/-- The parameters of a mapping request. -/
structure MapRequest where
  /-- The length in bytes. -/
  length : UInt64
  /-- The protection bits. -/
  protection : Int32
  /-- The flag bits. -/
  flags : Int32
deriving DecidableEq, Repr

/-- A private anonymous mapping that can only be read. -/
def MapRequest.anonymousReadOnly (length : UInt64) : MapRequest := ⟨length, 1, 0x22⟩

/-- A mapping that the kernel made for a request. -/
structure MemoryRegion where
  /-- The address of the first byte. -/
  base : UInt64
  /-- The length that was asked for. -/
  length : UInt64
  /-- The protection bits. -/
  protection : Int32
  /-- The flag bits. -/
  flags : Int32
deriving DecidableEq, Repr

namespace MemoryRegion

/-- The mapping at `base` made for a request. -/
def ofRequest (base : UInt64) (request : MapRequest) : MemoryRegion :=
  ⟨base, request.length, request.protection, request.flags⟩

/-- Whether the mapping has no bytes. -/
def isEmpty (r : MemoryRegion) : Bool := r.length == 0

/-- Whether the mapping starts at a multiple of the page size; nothing is aligned to pages of no
bytes. -/
def isPageAligned (r : MemoryRegion) (pageSize : UInt64) : Bool :=
  pageSize != 0 && r.base % pageSize == 0

end MemoryRegion

/-- The greatest number of bytes that one buffer can hold. -/
def maxBufferLength : Nat := 0x7fffffffffffffff

/-- Pages that `length` bytes touch; a part of a page counts as one. -/
def residencyLength (length pageSize : UInt64) : Except Fault Nat :=
  if pageSize = 0 then .error .divideByZero
  else .ok ((length.toNat + pageSize.toNat - 1) / pageSize.toNat)

end KernelProbe
