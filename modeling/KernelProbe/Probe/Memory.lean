import KernelProbe.Probe.Basic

/-!
# Memory probes

`brk`, then for each length a mapping that is made, asked for its resident pages and released. The
group keeps live mappings by the length that was asked for; its teardown releases what is left.

The vector for a residency query carries guard bytes beyond the entries that are expected, so that
an entry that the kernel left out shows as well as one too many.
-/

namespace KernelProbe.Memory

/-- The group's name. -/
def groupName : String := "memory"

/-- The number of guard bytes behind the entries of a residency vector. -/
def guardLength : Nat := 16

/-- The value of every byte of the vector before the call; the kernel writes only 0 and 1. -/
def guardByte : UInt8 := 0xA5

/-! ## Live mappings -/

/-- Mappings by the length that was asked for, the shortest first. -/
abbrev Regions := List (UInt64 × MemoryRegion)

namespace Regions

/-- Keep a mapping under a length, in place of one that is there. -/
def insert (length : UInt64) (region : MemoryRegion) : Regions → Regions
  | [] => [(length, region)]
  | (key, held) :: rest =>
    if length < key then (length, region) :: (key, held) :: rest
    else if length = key then (length, region) :: rest
    else (key, held) :: insert length region rest

/-- The mapping of a length. -/
def find? (length : UInt64) (regions : Regions) : Option MemoryRegion := regions.lookup length

/-- The mappings without that of a length. -/
def erase (length : UInt64) (regions : Regions) : Regions := regions.filter (·.1 != length)

end Regions

/-- What the memory probes share. -/
structure Context where
  /-- The live mappings. -/
  regions : Regions := []
deriving DecidableEq, Repr

/-! ## Probes -/

/-- A probe's name for a mapping length. -/
def lengthName (call : String) (length : UInt64) : String :=
  call ++ "[" ++ Text.hex length.toNat ++ "]"

/-- Ask for the program break, which must not be null. -/
def brkProbe : Probe Context UInt64 where
  spec := ⟨"brk", [.brk], false⟩
  invoke := Step.call (.brk 0)
  check stop := do
    Judge.note "break" (Text.hex stop.toNat)
    if stop = 0 then
      Judge.refute "program break is null" (some (.ok 0))

/-- Make a mapping of a length; it must start at a page and not at null. A mapping at a bad address
is kept all the same, so that the teardown releases it. -/
def mmapProbe (length pageSize : UInt64) : Probe Context MemoryRegion where
  spec := ⟨lengthName "mmap" length, [.mmap], false⟩
  invoke := Step.call (.mmap (.anonymousReadOnly length))
  check region := do
    Judge.note "addr" (Text.hex region.base.toNat)
    Judge.note "length" (Text.hex region.length.toNat)
    if region.base = 0 then
      Judge.refute "mmap returned a null address" (some (.ok 0))
    Judge.update fun c => { c with regions := c.regions.insert length region }
    if !region.isPageAligned pageSize then
      Judge.refute ("address " ++ Text.hex region.base.toNat ++ " is not "
        ++ Text.hex pageSize.toNat ++ "-aligned") (some (.ok region.base.toInt64))

/-- Skip the probe unless a mapping of the length is live. -/
def needRegion (length : UInt64) : Step Context Unit := do
  if ((← get).regions.find? length).isNone then
    Step.fail (.setup ("no live mapping of length " ++ Text.hex length.toNat) none)

/-- The number of bytes of the vector for a residency query. -/
def vectorLength (length pageSize : UInt64) : Except Fault Nat := do
  let total := (← residencyLength length pageSize) + guardLength
  if UInt64.size ≤ total then throw .addOverflow
  if maxBufferLength < total then throw .capacityOverflow
  return total

/-- A vector of guard bytes after the kernel has stored bytes at its start; it cannot store more
than the vector holds. -/
def filledVector (capacity : Nat) (stored : List UInt8) : List UInt8 :=
  stored.take capacity ++ List.replicate (capacity - stored.length) guardByte

/-- Ask which pages of a mapping are resident. Every expected entry must be filled, and no byte
behind them. -/
def mincoreProbe (length pageSize : UInt64) : Probe Context (List UInt8) where
  spec := ⟨lengthName "mincore" length, [.mincore], false⟩
  setup := needRegion length
  invoke := do
    match (← get).regions.find? length with
    | none => Step.fail (.setup "mapping vanished before mincore" none)
    | some region =>
      let capacity ← Step.ofExcept (vectorLength length pageSize)
      return filledVector capacity (← Step.call (.mincore region capacity))
  check vector := do
    let expected ← Judge.ofExcept (residencyLength length pageSize)
    if vector.length < expected then
      Judge.panic .splitPastEnd
    let (entries, guards) := vector.splitAt expected
    let filled := entries.takeWhile (· != guardByte)
    let overrun := guards.countP (· != guardByte)
    Judge.noteNat "expected_entries" expected
    Judge.note "residency" (" ".intercalate (filled.map fun b => Text.decimal (b &&& 1).toNat))
    if filled.length != expected then
      Judge.refute ("kernel filled " ++ Text.decimal filled.length ++ " of "
        ++ Text.decimal expected ++ " residency entries") (some (.ok 0))
    if overrun != 0 then
      Judge.refute ("kernel wrote " ++ Text.decimal overrun ++ " bytes past the "
        ++ Text.decimal expected ++ " residency entries") (some (.ok 0))

/-- Release the mapping of a length. It is out of the context even if releasing it fails. -/
def munmapProbe (length : UInt64) : Probe Context UInt64 where
  spec := ⟨lengthName "munmap" length, [.munmap], false⟩
  setup := needRegion length
  invoke := do
    match (← get).regions.find? length with
    | none => Step.fail (.setup "mapping vanished before munmap" none)
    | some region =>
      modify fun c => { c with regions := c.regions.erase length }
      Step.call (.munmap region)
      return region.base
  check base := Judge.note "released" (Text.hex base.toNat)

/-! ## The group -/

/-- Release the mappings that are left, the shortest first; failures are logged. -/
def releaseAll : Regions → Step Context Unit
  | [] => pure ()
  | (length, region) :: rest => do
    if let .error e ← Step.attempt (.munmap region) then
      Step.log
        { level := .warn, target := "sysprobe_core::application::groups::memory",
          message := "Failed to release mapping",
          fields := [("base", .int region.base.toNat), ("length", .int length.toNat),
            ("error", .text e.message)] }
    releaseAll rest

/-- Release whatever mappings the probes left. -/
def teardown : Step Context Unit := do
  let regions := (← get).regions
  modify fun c => { c with regions := [] }
  releaseAll regions

/-- The three probes of a mapping length. -/
def triad (pageSize length : UInt64) : List (Trial Context) :=
  [(mmapProbe length pageSize).trial, (mincoreProbe length pageSize).trial,
    (munmapProbe length).trial]

/-- The memory group for a list of mapping lengths. -/
def group (lengths : List UInt64) (pageSize : UInt64) : Group where
  Context := Context
  name := groupName
  start := {}
  trials := brkProbe.trial :: lengths.flatMap (triad pageSize)
  teardown := teardown

end KernelProbe.Memory
