import Mathlib.Data.List.Induction
import KernelProbe.Proofs.Kernel.Mock

/-!
# The mock kernel as a store

The descriptors and mappings of the mock kernel can be told from the calls alone, however it is set.
`MockKernel.Tracks m t s` says that the store `s` holds what the kernel `m` should hold after the
exchanges `t`; a call does one of a few things to the store (`Effect`, `call_effect`), each of which
keeps the track (`Tracks.step`), so that a run of calls keeps it (`tracks_after`).
-/

namespace KernelProbe

/-! ## Exchanges -/

namespace Exchange

/-- The descriptor that the call opened. -/
def opened? : Exchange → Option Int32
  | ⟨.openFile .., ⟨_, .value fd⟩⟩ => some fd
  | ⟨.openAt .., ⟨_, .value fd⟩⟩ => some fd
  | _ => none

/-- The descriptor that the call closed. -/
def closed? : Exchange → Option Int32
  | ⟨.close fd, ⟨_, .value _⟩⟩ => some fd
  | _ => none

/-- The mapping that the call made. -/
def mapped? : Exchange → Option MemoryRegion
  | ⟨.mmap _, ⟨_, .value region⟩⟩ => some region
  | _ => none

end Exchange

/-- The call opens a descriptor. -/
def Call.opens : Call → Bool
  | .openFile .. | .openAt .. => true
  | _ => false

namespace MockKernel

/-- The descriptors that were opened, in order. -/
def descriptors (t : List Exchange) : List Int32 := t.filterMap Exchange.opened?

/-- The mappings that were made, in order. -/
def mappings (t : List Exchange) : List MemoryRegion := t.filterMap Exchange.mapped?

/-- The kernel after the calls. -/
def after (m : MockKernel) (calls : List Call) : MockKernel :=
  calls.foldl (fun m c => (m.call c).2) m

/-- The calls with the replies to them. -/
def exchanges (m : MockKernel) : List Call → List Exchange
  | [] => []
  | c :: calls => ⟨c, (m.call c).1⟩ :: (m.call c).2.exchanges calls

/-- Nothing was asked of the kernel yet, however it is set. -/
structure Fresh (m : MockKernel) : Prop where
  calls : m.calls = []
  written : m.written = []
  unmapped : m.unmapped = []
  nextFd : m.nextFd = 3
  openFds : m.openFds = []
  closedFds : m.closedFds = []
  execPaths : m.execPaths = []
  sound : m.poisoned = false

/-- A call is told to give up or to fail. -/
def Scripted (m : MockKernel) (s : Syscall) : Prop :=
  m.panicOn = some s ∨ (m.failures.lookup s).isSome

/-- How many descriptors there are from 3 up to the greatest. -/
def maxOpens : Nat := 0x7ffffffd

/-- The call executes a program on a kernel that drops its descriptors then. -/
def Drops (m : MockKernel) (c : Call) : Prop :=
  m.dropFdsOnExec = true ∧ c.syscall = .execve ∧ ¬m.Scripted .execve

/-- The descriptor was opened, and since then neither closed nor dropped. -/
def Live (m : MockKernel) (t : List Exchange) (fd : Int32) : Prop :=
  ∃ before x after, t = before ++ x :: after ∧ x.opened? = some fd ∧
    ∀ y ∈ after, y.closed? ≠ some fd ∧ ¬m.Drops y.call

/-- The address of the next mapping, as a number of any size. -/
def frontier (m : MockKernel) (t : List Exchange) : Nat :=
  m.nextMapBase.toNat + footprints ((mappings t).map (·.length))

/-- The call asks for a mapping that leaves no address for the next one. -/
def Exhausts (m : MockKernel) (t : List Exchange) (c : Call) : Prop :=
  ¬m.Scripted .mmap ∧ ∃ request, c = .mmap request ∧
    UInt64.size ≤ m.frontier t + footprint request.length

/-- A mapping was asked for that leaves no address for the next one. -/
def Broken (m : MockKernel) (t : List Exchange) : Prop :=
  ∃ before x after, t = before ++ x :: after ∧ m.Exhausts before x.call

variable {m k : MockKernel} {t : List Exchange} {x : Exchange} {c : Call} {fd : Int32}

theorem not_drops (h : c.syscall ≠ .execve) : ¬m.Drops c := fun hdrops => h hdrops.2.1

theorem not_exhausts (h : c.syscall ≠ .mmap) (t : List Exchange) : ¬m.Exhausts t c := by
  rintro ⟨-, _, rfl, -⟩
  exact h rfl

/-! ### One exchange more -/

theorem exists_split_snoc {P : List Exchange → Exchange → List Exchange → Prop} :
    (∃ before y after, t ++ [x] = before ++ y :: after ∧ P before y after) ↔
      P t x [] ∨ ∃ before y after, t = before ++ y :: after ∧ P before y (after ++ [x]) := by
  constructor
  · rintro ⟨before, y, after, heq, h⟩
    rcases List.eq_nil_or_concat after with rfl | ⟨front, last, rfl⟩
    · obtain ⟨rfl, hlast⟩ := List.append_inj' heq rfl
      obtain rfl := (List.cons.inj hlast).1
      exact .inl h
    · rw [List.concat_eq_append, ← List.cons_append, ← List.append_assoc] at heq
      obtain ⟨rfl, hlast⟩ := List.append_inj' heq rfl
      obtain rfl := (List.cons.inj hlast).1
      exact .inr ⟨before, y, front, rfl, by rwa [List.concat_eq_append] at h⟩
  · rintro (h | ⟨before, y, after, rfl, h⟩)
    · exact ⟨t, x, [], rfl, h⟩
    · exact ⟨before, y, after ++ [x], by simp, h⟩

theorem live_snoc : m.Live (t ++ [x]) fd ↔
    x.opened? = some fd ∨ m.Live t fd ∧ x.closed? ≠ some fd ∧ ¬m.Drops x.call := by
  unfold Live
  rw [exists_split_snoc]
  simp only [List.not_mem_nil, false_imp_iff, implies_true, and_true, List.mem_append,
    List.mem_singleton]
  refine or_congr_right ⟨?_, ?_⟩
  · rintro ⟨before, y, after, rfl, hy, hkept⟩
    exact ⟨⟨before, y, after, rfl, hy, fun z hz => hkept z (.inl hz)⟩, hkept x (.inr rfl)⟩
  · rintro ⟨⟨before, y, after, rfl, hy, hkept⟩, hx⟩
    refine ⟨before, y, after, rfl, hy, ?_⟩
    rintro z (hz | rfl)
    · exact hkept z hz
    · exact hx

theorem broken_snoc : m.Broken (t ++ [x]) ↔ m.Broken t ∨ m.Exhausts t x.call := by
  unfold Broken
  rw [exists_split_snoc, or_comm]

theorem descriptors_snoc : descriptors (t ++ [x]) = descriptors t ++ x.opened?.toList := by
  rw [descriptors, List.filterMap_append]
  cases h : x.opened? <;> simp [descriptors, h]

theorem mappings_snoc : mappings (t ++ [x]) = mappings t ++ x.mapped?.toList := by
  rw [mappings, List.filterMap_append]
  cases h : x.mapped? <;> simp [mappings, h]

theorem after_snoc (m : MockKernel) (calls : List Call) (c : Call) :
    m.after (calls ++ [c]) = ((m.after calls).call c).2 := by
  simp [after]

theorem exchanges_snoc (m : MockKernel) (calls : List Call) (c : Call) :
    m.exchanges (calls ++ [c]) = m.exchanges calls ++ [⟨c, ((m.after calls).call c).1⟩] := by
  induction calls generalizing m with
  | nil => rfl
  | cons d calls ih =>
    simp only [List.cons_append, exchanges, ih]
    rfl

/-! ## What a call does to the store -/

/-- What the mock kernel holds: descriptors and addresses, and whether it broke down. -/
structure Store where
  nextFd : Int32
  openFds : List Int32
  closedFds : List Int32
  nextMapBase : UInt64
  poisoned : Bool

/-- The store of a mock kernel. -/
def store (k : MockKernel) : Store :=
  ⟨k.nextFd, k.openFds, k.closedFds, k.nextMapBase, k.poisoned⟩

/-- The exchange gave nothing and took nothing away. -/
structure Idle (m : MockKernel) (x : Exchange) : Prop where
  opened : x.opened? = none
  closed : x.closed? = none
  mapped : x.mapped? = none
  drops : ¬m.Drops x.call
  exhausts : ∀ t, ¬m.Exhausts t x.call

/-- What an exchange does to the store. -/
inductive Effect (m : MockKernel) (s : Store) : Exchange → Store → Prop
  | idle {x : Exchange} (hx : m.Idle x) : Effect m s x s
  | opened {x : Exchange} (hx : x.opened? = some s.nextFd) (hmax : s.nextFd ≠ Int32.maxValue) :
      Effect m s x { s with nextFd := s.nextFd + 1, openFds := s.openFds ++ [s.nextFd] }
  | closed {fd : Int32} (hfd : fd ∈ s.openFds) :
      Effect m s ⟨.close fd, .value ()⟩
        { s with openFds := s.openFds.erase fd, closedFds := s.closedFds ++ [fd] }
  | dropped {request : ExecRequest} {reply : Reply Int64} (hdrops : m.Drops (.execve request)) :
      Effect m s ⟨.execve request, reply⟩ { s with openFds := [] }
  | mapped {request : MapRequest} {next : UInt64} (hscript : ¬m.Scripted .mmap)
      (hnext : next.toNat = s.nextMapBase.toNat + footprint request.length) :
      Effect m s ⟨.mmap request, .value (.ofRequest s.nextMapBase request)⟩
        { s with nextMapBase := next }
  | exhausted {request : MapRequest} {fault : Fault} (hscript : ¬m.Scripted .mmap)
      (hover : UInt64.size ≤ s.nextMapBase.toNat + footprint request.length) :
      Effect m s ⟨.mmap request, .panicked fault⟩ { s with poisoned := true }

/-- The two kernels are set alike, as far as replies and descriptors are concerned. -/
structure Alike (m k : MockKernel) : Prop where
  panicOn : k.panicOn = m.panicOn
  failures : k.failures = m.failures
  dropFdsOnExec : k.dropFdsOnExec = m.dropFdsOnExec

theorem Alike.scripted (h : m.Alike k) (s : Syscall) : k.Scripted s ↔ m.Scripted s := by
  rw [Scripted, h.panicOn, h.failures, Scripted]

theorem Alike.drops (h : m.Alike k) (c : Call) : k.Drops c ↔ m.Drops c := by
  rw [Drops, h.dropFdsOnExec, h.scripted, Drops]

/-- A call that is told to give up or to fail gives nothing and is noted, no more. -/
theorem call_scripted (hsound : k.poisoned = false) (hscript : k.Scripted c.syscall) :
    (∀ a, (k.call c).1.returned ≠ .value a) ∧
      (k.call c).2 = { k with calls := k.calls ++ [c.syscall] } := by
  by_cases hpanic : k.panicOn = some c.syscall
  · have hcall : k.call c = (.panicked (.text ("mock kernel panic in " ++ c.syscall.name)),
        { k with calls := k.calls ++ [c.syscall] }) := by
      simp [MockKernel.call, hsound, hpanic]
    rw [hcall]
    exact ⟨fun a h => (by cases h), rfl⟩
  · obtain ⟨errno, hlookup⟩ := Option.isSome_iff_exists.mp (hscript.resolve_left hpanic)
    have hcall : k.call c = (.failed (.of c.syscall errno),
        { k with calls := k.calls ++ [c.syscall] }) := by
      simp [MockKernel.call, hsound, hpanic, hlookup]
    rw [hcall]
    exact ⟨fun a h => (by cases h), rfl⟩

/-- A sound kernel serves a call that is not told to give up or to fail. -/
theorem call_served (hsound : k.poisoned = false) (hscript : ¬k.Scripted c.syscall) :
    k.call c = { k with calls := k.calls ++ [c.syscall] }.serve c := by
  obtain ⟨hpanic, hlookup⟩ := not_or.mp hscript
  rw [Bool.not_eq_true, Option.isSome_eq_false_iff, Option.isNone_iff_eq_none] at hlookup
  simp [MockKernel.call, hsound, hpanic, hlookup]

theorem call_poisoned (hpoisoned : k.poisoned = true) (c : Call) :
    k.call c = (.panicked poison, k) := by
  simp [MockKernel.call, hpoisoned]

/-- No call changes how the kernel is set. -/
theorem Alike.call (h : m.Alike k) (c : Call) : m.Alike (k.call c).2 := by
  have hserve : ∀ k : MockKernel, m.Alike k → m.Alike (k.serve c).2 := by
    intro k h
    cases c <;> simp only [serve, allocateDescriptor, breakDown] <;> (try split) <;> (try split) <;>
      exact ⟨h.panicOn, h.failures, h.dropFdsOnExec⟩
  have hnoted : m.Alike { k with calls := k.calls ++ [c.syscall] } :=
    ⟨h.panicOn, h.failures, h.dropFdsOnExec⟩
  cases hpoisoned : k.poisoned with
  | true => rwa [call_poisoned hpoisoned]
  | false =>
    by_cases hscript : k.Scripted c.syscall
    · rwa [(call_scripted hpoisoned hscript).2]
    · rw [call_served hpoisoned hscript]
      exact hserve _ hnoted

/-- The next address fits a word, or there is none. -/
theorem nextBase_cases (base length : UInt64) :
    (∃ next : UInt64, nextBase base length = .ok next ∧
      next.toNat = base.toNat + footprint length) ∨
    (∃ fault, nextBase base length = .error fault) ∧
      UInt64.size ≤ base.toNat + footprint length := by
  have hfootprint :
      (length.toNat + pageSize - 1) / pageSize * pageSize + pageSize = footprint length := rfl
  simp only [nextBase, hfootprint]
  split
  · exact .inr ⟨⟨_, rfl⟩, by omega⟩
  · split
    · exact .inr ⟨⟨_, rfl⟩, by omega⟩
    · split
      · exact .inr ⟨⟨_, rfl⟩, by omega⟩
      · exact .inl ⟨_, rfl, UInt64.toNat_ofNat_of_lt' (by omega)⟩

/-- An exchange that gave nothing opened, closed and mapped nothing. -/
theorem given_nothing (h : ∀ a, x.reply.returned ≠ .value a) :
    x.opened? = none ∧ x.closed? = none ∧ x.mapped? = none := by
  obtain ⟨c, stored, returned⟩ := x
  cases returned with
  | value a => exact absurd rfl (h a)
  | failed e => cases c <;> exact ⟨rfl, rfl, rfl⟩
  | panicked fault => cases c <;> exact ⟨rfl, rfl, rfl⟩

/-- A call leaves the store as it is, unless it is one of five. -/
theorem serve_store (hopens : c.opens = false)
    (hcalls : c.syscall ∉ [.close, .mmap, .execve]) : (k.serve c).2.store = k.store := by
  cases c with
  | openFile | openAt => cases hopens
  | close | mmap | execve => simp [Call.syscall] at hcalls
  | read fd n =>
    simp only [serve]
    split <;> rfl
  | futexWait word expected timeout =>
    simp only [serve]
    split
    · rfl
    · split <;> rfl
  | clone stack word status =>
    simp only [serve]
    split <;> rfl
  | _ => rfl

/-- A call that is none of the five opens, closes and maps nothing. -/
theorem idle_of_syscall (hopens : x.call.opens = false)
    (hcalls : x.call.syscall ∉ [.close, .mmap, .execve]) : m.Idle x := by
  obtain ⟨c, reply⟩ := x
  refine ⟨?_, ?_, ?_, ?_, ?_⟩
  · cases c <;> first | rfl | cases hopens
  · cases c <;> first | rfl | simp [Call.syscall] at hcalls
  · cases c <;> first | rfl | simp [Call.syscall] at hcalls
  · rintro ⟨-, hexecve, -⟩
    simp [hexecve] at hcalls
  · rintro t ⟨-, request, rfl, -⟩
    simp [Call.syscall] at hcalls

/-- What one call does to the store of a sound kernel. -/
theorem call_effect (halike : m.Alike k) (hsound : k.poisoned = false)
    (hmax : c.opens = true → k.nextFd ≠ Int32.maxValue) :
    m.Effect k.store ⟨c, (k.call c).1⟩ (k.call c).2.store := by
  by_cases hscript : k.Scripted c.syscall
  · obtain ⟨hnothing, hnoted⟩ := call_scripted hsound hscript
    obtain ⟨hopened, hclosed, hmapped⟩ := given_nothing (x := ⟨c, (k.call c).1⟩) hnothing
    rw [hnoted]
    refine .idle ⟨hopened, hclosed, hmapped, ?_, ?_⟩
    · rintro ⟨-, hexecve, hserved⟩
      exact hserved ((halike.scripted _).mp (hexecve ▸ hscript))
    · rintro t ⟨hserved, request, rfl, -⟩
      exact hserved ((halike.scripted _).mp hscript)
  have hserved : ¬m.Scripted c.syscall := mt (halike.scripted _).mpr hscript
  rw [call_served hsound hscript]
  by_cases hother : c.opens = false ∧ c.syscall ∉ [.close, .mmap, .execve]
  · rw [serve_store hother.1 hother.2]
    exact .idle (idle_of_syscall hother.1 hother.2)
  cases c with
  | openFile | openAt =>
    have hne : k.nextFd ≠ Int32.maxValue := hmax rfl
    simp only [serve, allocateDescriptor, if_neg hne]
    exact .opened rfl hne
  | close fd =>
    by_cases hfd : fd ∈ k.openFds
    · simp only [serve, if_pos hfd]
      exact .closed hfd
    · simp only [serve, if_neg hfd]
      exact .idle ⟨rfl, rfl, rfl, not_drops (by simp [Call.syscall]),
        not_exhausts (by simp [Call.syscall])⟩
  | mmap request =>
    rcases nextBase_cases k.nextMapBase request.length with
      ⟨next, hnext, hvalue⟩ | ⟨⟨fault, hnext⟩, hover⟩
    · simp only [serve, hnext]
      exact .mapped hserved hvalue
    · simp only [serve, hnext, breakDown]
      exact .exhausted hserved hover
  | execve request =>
    have hstore : (({ k with calls := k.calls ++ [Syscall.execve] } : MockKernel).serve
        (.execve request)).2.store =
        { k.store with openFds := if m.dropFdsOnExec then [] else k.openFds } := by
      rw [← halike.dropFdsOnExec]
      simp only [serve]
      split <;> rfl
    simp only [Call.syscall] at hserved ⊢
    rw [hstore]
    cases hdrop : m.dropFdsOnExec with
    | true => exact .dropped ⟨hdrop, rfl, hserved⟩
    | false =>
      have hdrops : ¬m.Drops (.execve request) := fun h => absurd (hdrop.symm.trans h.1) (by decide)
      exact .idle ⟨rfl, rfl, rfl, hdrops, not_exhausts (by simp [Call.syscall])⟩
  | _ => exact absurd ⟨rfl, by simp [Call.syscall]⟩ hother

/-! ## What the store holds -/

/-- The descriptors of the store are those of the exchanges, handed out from 3 on: an open one was
not closed, and none was closed twice. -/
structure HoldsDescriptors (t : List Exchange) (s : Store) : Prop where
  ascending : (descriptors t).Pairwise (· < ·)
  lt_next : ∀ fd ∈ descriptors t, fd < s.nextFd
  next : s.nextFd.toInt = 3 + (descriptors t).length
  subset : s.openFds ++ s.closedFds ⊆ descriptors t
  nodup : (s.openFds ++ s.closedFds).Nodup

/-- The mappings of the exchanges ascend, each with its footprint, from the first address of the
kernel up to the next one. -/
structure HoldsMappings (m : MockKernel) (t : List Exchange) (s : Store) : Prop where
  frontier : s.nextMapBase.toNat = m.frontier t
  below : ∀ r ∈ mappings t, r.base.toNat + footprint r.length ≤ s.nextMapBase.toNat
  congruent : ∀ r ∈ mappings t, r.base.toNat % pageSize = m.nextMapBase.toNat % pageSize
  apart : (mappings t).Pairwise fun r r' => r.base.toNat + footprint r.length ≤ r'.base.toNat

/-- The store holds what the kernel should hold after the exchanges. -/
structure Tracks (m : MockKernel) (t : List Exchange) (s : Store) : Prop where
  descriptors : HoldsDescriptors t s
  mappings : m.HoldsMappings t s
  live : s.poisoned = false → ∀ fd, fd ∈ s.openFds ↔ m.Live t fd
  poisoned : s.poisoned = true ↔ m.Broken t

variable {s s' : Store}

/-- Of the descriptors only what is open or closed counts. -/
theorem HoldsDescriptors.of_frame (h : HoldsDescriptors t s) {t' : List Exchange}
    (hopened : descriptors t' = descriptors t) (hnext : s'.nextFd = s.nextFd)
    (hfds : s'.openFds ++ s'.closedFds ⊆ s.openFds ++ s.closedFds)
    (hnodup : (s'.openFds ++ s'.closedFds).Nodup) : HoldsDescriptors t' s' where
  ascending := hopened ▸ h.ascending
  lt_next := by
    rw [hopened, hnext]
    exact h.lt_next
  next := by
    rw [hopened, hnext]
    exact h.next
  subset := hopened ▸ List.Subset.trans hfds h.subset
  nodup := hnodup

theorem HoldsMappings.of_frame (h : m.HoldsMappings t s) {t' : List Exchange}
    (hmapped : MockKernel.mappings t' = MockKernel.mappings t)
    (hbase : s'.nextMapBase = s.nextMapBase) : m.HoldsMappings t' s' where
  frontier := by
    rw [hbase, h.frontier, MockKernel.frontier, MockKernel.frontier, hmapped]
  below := by
    rw [hmapped, hbase]
    exact h.below
  congruent := hmapped ▸ h.congruent
  apart := hmapped ▸ h.apart

theorem toInt_succ {fd : Int32} (hmax : fd ≠ Int32.maxValue) : (fd + 1).toInt = fd.toInt + 1 := by
  have hone : (1 : Int32).toInt = 1 := by decide
  have hle : fd.toInt ≤ Int32.maxValue.toInt := Int32.le_iff_toInt_le.mp (Int32.le_maxValue fd)
  have hne : fd.toInt ≠ Int32.maxValue.toInt := fun h => hmax (Int32.toInt_inj.mp h)
  have hvalue : Int32.maxValue.toInt = 2147483647 := by decide
  have hge := Int32.le_toInt fd
  rw [Int32.toInt_add, hone, Int.bmod_eq_of_le (by omega) (by omega)]

/-- The next descriptor is greater than those before it. -/
theorem HoldsDescriptors.opened (h : HoldsDescriptors t s) (hx : x.opened? = some s.nextFd)
    (hmax : s.nextFd ≠ Int32.maxValue) :
    HoldsDescriptors (t ++ [x])
      { s with nextFd := s.nextFd + 1, openFds := s.openFds ++ [s.nextFd] } := by
  have hsnoc : descriptors (t ++ [x]) = descriptors t ++ [s.nextFd] := by
    rw [descriptors_snoc, hx, Option.toList_some]
  have hsucc := toInt_succ hmax
  have hnew : s.nextFd ∉ s.openFds ++ s.closedFds := fun hmem =>
    Int32.lt_irrefl (h.lt_next _ (h.subset hmem))
  have hperm : (s.openFds ++ [s.nextFd] ++ s.closedFds).Perm
      (s.nextFd :: (s.openFds ++ s.closedFds)) := by
    rw [List.append_assoc]
    exact List.perm_middle
  refine ⟨?_, ?_, ?_, ?_, ?_⟩
  · rw [hsnoc, List.pairwise_append]
    refine ⟨h.ascending, List.pairwise_singleton .., fun fd hfd fd' hfd' => ?_⟩
    rw [List.mem_singleton.mp hfd']
    exact h.lt_next fd hfd
  · intro fd hfd
    rw [hsnoc, List.mem_append, List.mem_singleton] at hfd
    rw [Int32.lt_iff_toInt_lt, hsucc]
    rcases hfd with hfd | rfl
    · have hlt := Int32.lt_iff_toInt_lt.mp (h.lt_next fd hfd)
      omega
    · omega
  · have hnext := h.next
    simp only [hsnoc, hsucc, List.length_append, List.length_singleton]
    omega
  · rw [hsnoc]
    refine List.Subset.trans hperm.subset (List.cons_subset.mpr ⟨by simp, ?_⟩)
    exact List.subset_append_of_subset_left _ h.subset
  · exact hperm.nodup_iff.mpr (List.nodup_cons.mpr ⟨hnew, h.nodup⟩)

/-- A descriptor that is closed was open. -/
theorem HoldsDescriptors.closed (h : HoldsDescriptors t s) (hfd : fd ∈ s.openFds) :
    HoldsDescriptors (t ++ [⟨.close fd, .value ()⟩])
      { s with openFds := s.openFds.erase fd, closedFds := s.closedFds ++ [fd] } := by
  have hperm : (s.openFds.erase fd ++ (s.closedFds ++ [fd])).Perm (s.openFds ++ s.closedFds) := by
    have hlast : (s.openFds.erase fd ++ (s.closedFds ++ [fd])).Perm
        (fd :: (s.openFds.erase fd ++ s.closedFds)) := by
      rw [← List.append_assoc]
      exact List.perm_append_singleton ..
    exact hlast.trans ((List.perm_cons_erase hfd).symm.append_right _)
  exact h.of_frame (descriptors_snoc.trans (List.append_nil _)) rfl hperm.subset
    (hperm.nodup_iff.mpr h.nodup)

theorem footprints_snoc (lengths : List UInt64) (length : UInt64) :
    footprints (lengths ++ [length]) = footprints lengths + footprint length := by
  induction lengths with
  | nil => simp [footprints]
  | cons first lengths ih =>
    rw [List.cons_append, footprints_cons, footprints_cons, ih, Nat.add_assoc]

theorem footprints_mod (lengths : List UInt64) : footprints lengths % pageSize = 0 := by
  induction lengths with
  | nil => rfl
  | cons length lengths ih =>
    rw [footprints_cons, Nat.add_mod, ih, footprint, ← Nat.succ_mul, Nat.mul_mod_left, Nat.zero_mod]

/-- A mapping starts where the footprint of the one before it ends. -/
theorem HoldsMappings.mapped (h : m.HoldsMappings t s) (request : MapRequest) {next : UInt64}
    (hnext : next.toNat = s.nextMapBase.toNat + footprint request.length) :
    m.HoldsMappings (t ++ [⟨.mmap request, .value (.ofRequest s.nextMapBase request)⟩])
      { s with nextMapBase := next } := by
  have hsnoc : MockKernel.mappings
      (t ++ [⟨.mmap request, .value (.ofRequest s.nextMapBase request)⟩]) =
      MockKernel.mappings t ++ [.ofRequest s.nextMapBase request] := mappings_snoc
  have hcongruent : s.nextMapBase.toNat % pageSize = m.nextMapBase.toNat % pageSize := by
    rw [h.frontier, MockKernel.frontier, Nat.add_mod, footprints_mod, Nat.add_zero, Nat.mod_mod]
  refine ⟨?_, ?_, ?_, ?_⟩
  · simp only [MockKernel.frontier, hsnoc, List.map_append, List.map_singleton, footprints_snoc]
    rw [hnext, h.frontier, MockKernel.frontier, Nat.add_assoc]
    rfl
  · intro r hr
    rw [hsnoc, List.mem_append, List.mem_singleton] at hr
    rcases hr with hr | rfl
    · have := h.below r hr
      simp only [hnext]
      omega
    · exact Nat.le_of_eq hnext.symm
  · intro r hr
    rw [hsnoc, List.mem_append, List.mem_singleton] at hr
    rcases hr with hr | rfl
    · exact h.congruent r hr
    · exact hcongruent
  · rw [hsnoc, List.pairwise_append]
    refine ⟨h.apart, List.pairwise_singleton .., fun r hr r' hr' => ?_⟩
    rw [List.mem_singleton.mp hr']
    exact h.below r hr

/-- What opens a descriptor does nothing else. -/
theorem opened_only (hx : x.opened? = some fd) :
    x.closed? = none ∧ x.mapped? = none ∧ ¬m.Drops x.call ∧ ∀ t, ¬m.Exhausts t x.call := by
  obtain ⟨c, reply⟩ := x
  cases c with
  | openFile | openAt =>
    exact ⟨rfl, rfl, not_drops (by simp [Call.syscall]), not_exhausts (by simp [Call.syscall])⟩
  | _ => cases hx

/-- An exchange of a sound kernel keeps the track. -/
theorem Tracks.step (h : m.Tracks t s) (hsound : s.poisoned = false) (heffect : m.Effect s x s') :
    m.Tracks (t ++ [x]) s' := by
  have hlive := h.live hsound
  have hopened : x.opened? = none → MockKernel.descriptors (t ++ [x]) = MockKernel.descriptors t :=
    fun hnone => by rw [descriptors_snoc, hnone, Option.toList_none, List.append_nil]
  have hmapped : x.mapped? = none → MockKernel.mappings (t ++ [x]) = MockKernel.mappings t :=
    fun hnone => by rw [mappings_snoc, hnone, Option.toList_none, List.append_nil]
  have hstays : ¬m.Exhausts t x.call → (s.poisoned = true ↔ m.Broken (t ++ [x])) :=
    fun hnot => by rw [broken_snoc, or_iff_left hnot, h.poisoned]
  cases heffect with
  | idle hx =>
    refine ⟨h.descriptors.of_frame (hopened hx.opened) rfl (List.Subset.refl _) h.descriptors.nodup,
      h.mappings.of_frame (hmapped hx.mapped) rfl, fun _ fd => ?_, hstays (hx.exhausts t)⟩
    rw [live_snoc, hx.opened, hx.closed, hlive]
    simp [hx.drops]
  | opened hx hmax =>
    obtain ⟨hclosed, hmap, hdrops, hexhausts⟩ := opened_only (m := m) hx
    refine ⟨h.descriptors.opened hx hmax, h.mappings.of_frame (hmapped hmap) rfl, fun _ fd => ?_,
      hstays (hexhausts t)⟩
    rw [live_snoc, hx, hclosed, ← hlive]
    simp [hdrops, or_comm, eq_comm]
  | @closed fd hfd =>
    refine ⟨h.descriptors.closed hfd, h.mappings.of_frame (hmapped rfl) rfl, fun _ fd' => ?_,
      hstays (not_exhausts (by simp [Call.syscall]) t)⟩
    have hnodup := (List.nodup_append.mp h.descriptors.nodup).1
    have hdrops : ¬m.Drops (.close fd) := not_drops (by simp [Call.syscall])
    rw [live_snoc, hnodup.mem_erase_iff, hlive]
    simp [Exchange.opened?, Exchange.closed?, Reply.value, hdrops, and_comm, eq_comm]
  | @dropped request reply hdrops =>
    refine ⟨h.descriptors.of_frame (hopened rfl) rfl (List.subset_append_right _ _)
      (List.nodup_append.mp h.descriptors.nodup).2.1, h.mappings.of_frame (hmapped rfl) rfl,
      fun _ fd => ?_, hstays (not_exhausts (by simp [Call.syscall]) t)⟩
    rw [live_snoc]
    simp [Exchange.opened?, hdrops]
  | @mapped request next hscript hnext =>
    refine ⟨h.descriptors.of_frame (hopened rfl) rfl (List.Subset.refl _) h.descriptors.nodup,
      h.mappings.mapped request hnext, fun _ fd => ?_, hstays ?_⟩
    · have hdrops : ¬m.Drops (.mmap request) := not_drops (by simp [Call.syscall])
      rw [live_snoc, hlive]
      simp [Exchange.opened?, Exchange.closed?, hdrops]
    · rintro ⟨-, _, hrequest, hover⟩
      cases hrequest
      rw [← h.mappings.frontier, ← hnext] at hover
      exact absurd next.toNat_lt (Nat.not_lt.mpr hover)
  | exhausted hscript hover =>
    refine ⟨h.descriptors.of_frame (hopened rfl) rfl (List.Subset.refl _) h.descriptors.nodup,
      h.mappings.of_frame (hmapped rfl) rfl, fun hsound => (by cases hsound), ?_⟩
    rw [broken_snoc]
    exact iff_of_true rfl (.inr ⟨hscript, _, rfl, h.mappings.frontier ▸ hover⟩)

/-- A kernel that broke down holds what it held. -/
theorem Tracks.stuck (h : m.Tracks t s) (hpoisoned : s.poisoned = true) (c : Call) (fault : Fault) :
    m.Tracks (t ++ [⟨c, .panicked fault⟩]) s := by
  obtain ⟨hopened, -, hmapped⟩ := given_nothing (x := ⟨c, .panicked fault⟩) fun a h => by cases h
  refine ⟨h.descriptors.of_frame ?_ rfl (List.Subset.refl _) h.descriptors.nodup,
    h.mappings.of_frame ?_ rfl, fun hsound => ?_, ?_⟩
  · rw [descriptors_snoc, hopened, Option.toList_none, List.append_nil]
  · rw [mappings_snoc, hmapped, Option.toList_none, List.append_nil]
  · rw [hpoisoned] at hsound
    cases hsound
  · rw [broken_snoc]
    exact iff_of_true hpoisoned (.inl (h.poisoned.mp hpoisoned))

theorem Fresh.tracks (h : m.Fresh) : m.Tracks [] m.store where
  descriptors := by
    refine ⟨.nil, by simp [descriptors], ?_, ?_, ?_⟩
    · simp [store, h.nextFd, descriptors]
    · simp [store, h.openFds, h.closedFds]
    · simp [store, h.openFds, h.closedFds]
  mappings := ⟨rfl, by simp [mappings], by simp [mappings], .nil⟩
  live _ fd := by simp [store, h.openFds, Live]
  poisoned := by simp [store, h.sound, Broken]

/-- As many descriptors are opened as there are opens at most. -/
theorem length_descriptors_le (m : MockKernel) (calls : List Call) :
    (descriptors (m.exchanges calls)).length ≤ calls.countP Call.opens := by
  induction calls generalizing m with
  | nil => exact Nat.le_refl 0
  | cons c calls ih =>
    have hrest := ih (m.call c).2
    rw [exchanges, descriptors, List.filterMap_cons, List.countP_cons]
    split
    · exact Nat.le_add_right_of_le hrest
    · next fd hfd =>
      have hc : c.opens = true := by
        cases c with
        | openFile | openAt => rfl
        | _ => cases hfd
      rw [if_pos hc]
      exact Nat.succ_le_succ hrest

/-- As long as an open is left, so is a descriptor. -/
theorem Tracks.nextFd_ne {calls : List Call} (h : m.Tracks (m.exchanges calls) k.store)
    (hroom : calls.countP Call.opens + 1 < maxOpens) : k.nextFd ≠ Int32.maxValue := by
  intro hmax
  have hnext : k.nextFd.toInt = _ := h.descriptors.next
  have hlength := length_descriptors_le m calls
  have hvalue : Int32.maxValue.toInt = 2147483647 := by decide
  rw [hmax, hvalue] at hnext
  unfold maxOpens at hroom
  omega

/-- The kernel holds what it should after any calls. -/
theorem tracks_after (hm : m.Fresh) (calls : List Call)
    (hopens : calls.countP Call.opens < maxOpens) :
    m.Tracks (m.exchanges calls) (m.after calls).store ∧ m.Alike (m.after calls) := by
  induction calls using List.reverseRecOn with
  | nil => exact ⟨hm.tracks, rfl, rfl, rfl⟩
  | append_singleton calls c ih =>
    rw [List.countP_append] at hopens
    obtain ⟨htracks, halike⟩ := ih (by omega)
    rw [exchanges_snoc, after_snoc]
    refine ⟨?_, halike.call c⟩
    cases hpoisoned : (m.after calls).poisoned with
    | true =>
      rw [call_poisoned hpoisoned]
      exact htracks.stuck hpoisoned c poison
    | false =>
      refine htracks.step hpoisoned (call_effect halike hpoisoned fun hc => ?_)
      rw [List.countP_singleton, if_pos hc] at hopens
      exact htracks.nextFd_ne hopens

/-! ## The store as the caller sees it -/

/-- After the calls, the kernel is a store of descriptors and addresses: what it gives and refuses
can be told from the calls and the replies to them. -/
structure Faithful (m : MockKernel) (calls : List Call) : Prop where
  /-- Every descriptor is greater than those before it. -/
  ascending : (descriptors (m.exchanges calls)).Pairwise (· < ·)
  /-- An open gives a descriptor. -/
  opened : ∀ c, c.opens = true → ¬m.Scripted c.syscall → ¬m.Broken (m.exchanges calls) →
    (calls ++ [c]).countP Call.opens < maxOpens →
    ∃ fd, Exchange.opened? ⟨c, ((m.after calls).call c).1⟩ = some fd
  /-- The live descriptors can be read, no others. -/
  read : ¬m.Scripted .read → ¬m.Broken (m.exchanges calls) → ∀ fd n,
    (m.Live (m.exchanges calls) fd →
      ((m.after calls).call (.read fd n)).1 = .value { count := 0 }) ∧
    (¬m.Live (m.exchanges calls) fd →
      ((m.after calls).call (.read fd n)).1 = .failed (.of .read .ebadf))
  /-- The live descriptors can be closed, no others. -/
  close : ¬m.Scripted .close → ¬m.Broken (m.exchanges calls) → ∀ fd,
    (m.Live (m.exchanges calls) fd → ((m.after calls).call (.close fd)).1 = .value ()) ∧
    (¬m.Live (m.exchanges calls) fd →
      ((m.after calls).call (.close fd)).1 = .failed (.of .close .ebadf))
  /-- No descriptor is noted as closed twice. -/
  closed_once : (m.after calls).closedFds.Nodup
  /-- A mapping begins behind the pages of every mapping before it, and a free page. -/
  apart : (mappings (m.exchanges calls)).Pairwise fun r r' =>
    r.base.toNat + footprint r.length ≤ r'.base.toNat
  /-- All mappings begin at the same place in a page. -/
  congruent : ∀ r ∈ mappings (m.exchanges calls), ∀ r' ∈ mappings (m.exchanges calls),
    r.base.toNat % pageSize = r'.base.toNat % pageSize
  /-- A mapping is made if it leaves an address for the next one; else the kernel gives up. -/
  mapped : ¬m.Scripted .mmap → ¬m.Broken (m.exchanges calls) → ∀ request,
    (m.frontier (m.exchanges calls) + footprint request.length < UInt64.size →
      ∃ base : UInt64, base.toNat = m.frontier (m.exchanges calls) ∧
        ((m.after calls).call (.mmap request)).1 = .value (.ofRequest base request)) ∧
    (UInt64.size ≤ m.frontier (m.exchanges calls) + footprint request.length →
      ∃ fault, ((m.after calls).call (.mmap request)).1 = .panicked fault)
  /-- After a mapping that left no address for the next one, the kernel always gives up. -/
  broken : m.Broken (m.exchanges calls) → ∀ c syscall,
    (m.after calls).call c = (.panicked poison, m.after calls) ∧
    (m.after calls).supports syscall = .error poison
  /-- A call that is told to fail, does, and is noted, no more. -/
  failing : ∀ c errno, m.failures.lookup c.syscall = some errno →
    ((m.after calls).call c).2 =
      { m.after calls with calls := ((m.after calls).call c).2.calls } ∧
    (m.panicOn ≠ some c.syscall → ¬m.Broken (m.exchanges calls) →
      ((m.after calls).call c).1 = .failed (.of c.syscall errno))

/-- However it is set, the mock kernel is a faithful store after any calls that do not open more
descriptors than there are. -/
theorem faithful_after (hm : m.Fresh) (calls : List Call)
    (hopens : calls.countP Call.opens < maxOpens) : m.Faithful calls := by
  obtain ⟨htracks, halike⟩ := tracks_after hm calls hopens
  have hsound : ¬m.Broken (m.exchanges calls) → (m.after calls).poisoned = false := fun h =>
    Bool.eq_false_iff.mpr (mt htracks.poisoned.mp h)
  have hserved : ∀ {c : Call}, ¬m.Scripted c.syscall → ¬m.Broken (m.exchanges calls) →
      (m.after calls).call c =
        { m.after calls with calls := (m.after calls).calls ++ [c.syscall] }.serve c :=
    fun hscript hbroken => call_served (hsound hbroken) (mt (halike.scripted _).mp hscript)
  have hlive : ¬m.Broken (m.exchanges calls) → ∀ fd, fd ∈ (m.after calls).openFds ↔
      m.Live (m.exchanges calls) fd := fun hbroken => htracks.live (hsound hbroken)
  constructor
  case ascending => exact htracks.descriptors.ascending
  case opened =>
    intro c hc hscript hbroken hroom
    rw [List.countP_append, List.countP_singleton, if_pos hc] at hroom
    have hne : (m.after calls).nextFd ≠ Int32.maxValue := htracks.nextFd_ne hroom
    rw [hserved hscript hbroken]
    cases c with
    | openFile | openAt =>
      simp only [serve, allocateDescriptor, if_neg hne]
      exact ⟨_, rfl⟩
    | _ => cases hc
  case read =>
    intro hscript hbroken fd n
    rw [hserved (c := .read fd n) hscript hbroken, ← hlive hbroken]
    exact ⟨fun hfd => by simp [serve, hfd], fun hfd => by simp [serve, hfd]⟩
  case close =>
    intro hscript hbroken fd
    rw [hserved (c := .close fd) hscript hbroken, ← hlive hbroken]
    exact ⟨fun hfd => by simp [serve, hfd], fun hfd => by simp [serve, hfd]⟩
  case closed_once => exact (List.nodup_append.mp htracks.descriptors.nodup).2.1
  case apart => exact htracks.mappings.apart
  case congruent =>
    intro r hr r' hr'
    rw [htracks.mappings.congruent r hr, htracks.mappings.congruent r' hr']
  case mapped =>
    intro hscript hbroken request
    have hfrontier : (m.after calls).nextMapBase.toNat = m.frontier (m.exchanges calls) :=
      htracks.mappings.frontier
    rw [hserved (c := .mmap request) hscript hbroken, ← hfrontier]
    rcases nextBase_cases (m.after calls).nextMapBase request.length with
      ⟨next, hnext, hvalue⟩ | ⟨⟨fault, hnext⟩, hover⟩
    · have hfits := next.toNat_lt
      refine ⟨fun _ => ⟨_, rfl, by simp only [serve, hnext]⟩, fun hover => ?_⟩
      rw [hvalue] at hfits
      exact absurd hfits (Nat.not_lt.mpr hover)
    · refine ⟨fun hfits => absurd hfits (Nat.not_lt.mpr hover), fun _ => ⟨fault, ?_⟩⟩
      simp only [serve, hnext, breakDown]
  case broken =>
    intro hbroken c syscall
    have hpoisoned : (m.after calls).poisoned = true := htracks.poisoned.mpr hbroken
    exact ⟨call_poisoned hpoisoned c, by simp [supports, hpoisoned]⟩
  case failing =>
    intro c errno hlookup
    have hscript : (m.after calls).Scripted c.syscall :=
      (halike.scripted _).mpr (.inr (by rw [hlookup]; rfl))
    refine ⟨?_, fun hpanic hbroken => ?_⟩
    · cases hpoisoned : (m.after calls).poisoned with
      | true => rw [call_poisoned hpoisoned]
      | false => rw [(call_scripted hpoisoned hscript).2]
    · rw [← halike.panicOn] at hpanic
      rw [← halike.failures] at hlookup
      simp [MockKernel.call, hsound hbroken, hpanic, hlookup]

/-- A kernel that drops its descriptors when a program is executed and has room for one page. -/
def lastPage : MockKernel := { nextMapBase := 0xffffffffffffd000, dropFdsOnExec := true }

/-- Calls that open two descriptors, the second behind an `execve`, and map two pages. -/
def twoPages : List Call :=
  let root : CText := ⟨"/", by decide⟩
  [.openFile root 0 0, .mmap (.anonymousReadOnly 0x1000), .execve ⟨root, [], []⟩,
    .openAt 3 root 0 0, .close 4, .mmap (.anonymousReadOnly 0x1000)]

/-- The first descriptor is dropped, the second closed, and the second page breaks the kernel. -/
theorem faithful_after_twoPages :
    lastPage.Fresh ∧ twoPages.countP Call.opens < maxOpens ∧ lastPage.Faithful twoPages ∧
      descriptors (lastPage.exchanges twoPages) = [3, 4] ∧
      (lastPage.after twoPages).closedFds = [4] ∧
      (mappings (lastPage.exchanges twoPages)).map (·.base) = [0xffffffffffffd000] ∧
      (lastPage.after twoPages).poisoned = true := by
  have hfresh : lastPage.Fresh := by constructor <;> rfl
  have hopens : twoPages.countP Call.opens < maxOpens := by decide
  refine ⟨hfresh, hopens, faithful_after hfresh twoPages hopens, ?_, ?_, ?_, ?_⟩
  all_goals decide

end MockKernel

end KernelProbe
