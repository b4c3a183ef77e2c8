import KernelProbe.Kernel.Scripted
import KernelProbe.Proofs.Program.Plays

/-!
# The mock kernel in good health

`MockKernel.Serves m j m'` says that the dealings with the kernel in a journal are those of the mock
kernel, which they take from one state to another; what a machine that mimics the mock kernel
answers in a run is served (`run_serves`).

A fresh mock kernel is healthy, and a call leaves it so (`Healthy.step`), as long as it has
descriptors to spare and room for the mappings to come: an open takes a descriptor
(`Healthy.allocate`), a mapping takes its pages and one more (`Healthy.mmap`), and no other call
takes anything.
-/

namespace KernelProbe

/-- A machine answers as the mock kernel does, with a clock of its own; `R` relates its states to
those of the mock kernel. -/
structure Kernel.Mimics {κ : Type} (kernel : Kernel κ) (R : κ → MockKernel → Prop) : Prop where
  supports : ∀ {k m} syscall, R k m →
    (kernel.supports syscall k).1 = m.supports syscall ∧ R (kernel.supports syscall k).2 m
  call : ∀ {k m} c, R k m → (kernel.call c k).1 = (m.call c).1 ∧ R (kernel.call c k).2 (m.call c).2
  clock : ∀ {k m}, R k m → R (kernel.clock k).2 m
  load : ∀ {k m} last, R k m → (kernel.load last k).1 = last ∧ R (kernel.load last k).2 m

/-- A scripted kernel without a script mimics the mock kernel behind it. -/
theorem ScriptedKernel.mimics :
    ScriptedKernel.machine.Mimics fun s m => s.script = [] ∧ s.mock = m where
  supports := by
    rintro s _ syscall ⟨hscript, rfl⟩
    exact ⟨rfl, hscript, rfl⟩
  call := by
    rintro s _ c ⟨hscript, rfl⟩
    have hpass : ScriptedKernel.machine.call c s = s.passOn c := by
      simp [machine, ScriptedKernel.call, hscript, Script.next?]
    have hblock : (s.block c).mock = s.mock ∧ (s.block c).script = s.script := by
      unfold block
      split
      · split <;> exact ⟨rfl, rfl⟩
      · exact ⟨rfl, rfl⟩
    rw [hpass]
    simp [passOn, hblock, hscript]
  clock := fun ⟨hscript, hmock⟩ => ⟨hscript, hmock⟩
  load := fun _ hs => ⟨rfl, hs⟩

namespace MockKernel

/-! ## Served journals -/

/-- The dealings with the kernel in the journal are those of the mock kernel, which they take from
one state to the other. -/
def Serves : MockKernel → Journal → MockKernel → Prop
  | m, [], m' => m' = m
  | m, ⟨.supports syscall, known⟩ :: j, m' => known = m.supports syscall ∧ m.Serves j m'
  | m, ⟨.call c, reply⟩ :: j, m' => reply = (m.call c).1 ∧ (m.call c).2.Serves j m'
  | m, ⟨.load last, word⟩ :: j, m' => word = last ∧ m.Serves j m'
  | m, ⟨.clock, _⟩ :: j, m' => m.Serves j m'
  | m, ⟨.log _, _⟩ :: j, m' => m.Serves j m'
  | m, ⟨.report _, _⟩ :: j, m' => m.Serves j m'

variable {m m' : MockKernel} {j j₁ j₂ : Journal}

@[simp] theorem serves_nil : m.Serves [] m' ↔ m' = m := Iff.rfl

theorem serves_append :
    m.Serves (j₁ ++ j₂) m' ↔ ∃ m₁, m.Serves j₁ m₁ ∧ m₁.Serves j₂ m' := by
  induction j₁ generalizing m with
  | nil => simp
  | cons e j₁ ih =>
    obtain ⟨q, answer⟩ := e
    cases q <;> simp only [List.cons_append, Serves, ih, exists_and_left, and_assoc]

/-- Only the dealings with the kernel count. -/
theorem serves_kernel : m.Serves j.kernel m' ↔ m.Serves j m' := by
  induction j generalizing m with
  | nil => exact Iff.rfl
  | cons e j ih =>
    obtain ⟨q, answer⟩ := e
    cases q <;> simp [Request.toKernel, Serves, ih]

theorem serves_of_kernel (h : j₁.kernel = j₂.kernel) : m.Serves j₁ m' ↔ m.Serves j₂ m' := by
  rw [← serves_kernel, h, serves_kernel]

/-- What a machine that mimics the mock kernel answers in a run is served. -/
theorem run_serves {α κ ρ : Type} {kernel : Kernel κ} {R : κ → MockKernel → Prop}
    (hmimics : kernel.Mimics R) (reporter : Reporter ρ) (p : Program α) {k : κ} (r : ρ)
    (hk : R k m) : ∃ m', m.Serves (p.run kernel reporter k r).journal m' := by
  induction p generalizing k r m with
  | pure a => exact ⟨m, rfl⟩
  | ask q next ih =>
    cases q with
    | supports syscall =>
      obtain ⟨hanswer, hk'⟩ := hmimics.supports syscall hk
      obtain ⟨m', h⟩ := ih _ r hk'
      exact ⟨m', hanswer, h⟩
    | call c =>
      obtain ⟨hanswer, hk'⟩ := hmimics.call c hk
      obtain ⟨m', h⟩ := ih _ r hk'
      exact ⟨m', hanswer, h⟩
    | load last =>
      obtain ⟨hanswer, hk'⟩ := hmimics.load last hk
      obtain ⟨m', h⟩ := ih _ r hk'
      exact ⟨m', hanswer, h⟩
    | clock => exact ih _ r (hmimics.clock hk)
    | log event => exact ih _ r hk
    | report event => exact ih _ _ hk

/-! ## Health -/

/-- The mock kernel without its history: only its settings are left. -/
def settings (m : MockKernel) : MockKernel :=
  { m with
    calls := [], written := [], nextMapBase := 0x7f0000000000, unmapped := [], nextFd := 3,
    openFds := [], closedFds := [], execPaths := [] }

/-- There are at least so many descriptors to spare, all greater than the open ones. -/
structure Spare (spare : Nat) (m : MockKernel) : Prop where
  nonneg : 0 ≤ m.nextFd.toInt
  fits : m.nextFd.toInt + spare ≤ Int32.maxValue.toInt
  lt : ∀ fd ∈ m.openFds, fd.toInt < m.nextFd.toInt

/-- The bytes that a mapping takes up: whole pages, and one page more. -/
def footprint (length : UInt64) : Nat :=
  (length.toNat + pageSize - 1) / pageSize * pageSize + pageSize

/-- The bytes that mappings of the lengths take up. -/
def footprints (lengths : List UInt64) : Nat :=
  lengths.foldr (fun length total => footprint length + total) 0

theorem footprints_cons (length : UInt64) (lengths : List UInt64) :
    footprints (length :: lengths) = footprint length + footprints lengths := rfl

/-- The next mapping starts at a page and not at null, and there is room for mappings of the
lengths. -/
structure Room (lengths : List UInt64) (m : MockKernel) : Prop where
  pos : 0 < m.nextMapBase.toNat
  aligned : pageSize ∣ m.nextMapBase.toNat
  fits : m.nextMapBase.toNat + footprints lengths < UInt64.size

/-- The mock kernel is set like a fresh one, with descriptors to spare and room for mappings of the
lengths. -/
structure Healthy (spare : Nat) (lengths : List UInt64) (m : MockKernel) : Prop where
  settings : m.settings = {}
  descriptors : m.Spare spare
  addresses : m.Room lengths

variable {spare : Nat} {length : UInt64} {lengths : List UInt64}

/-- A fresh mock kernel is healthy. -/
theorem healthy_start (hspare : 3 + (spare : Int) ≤ Int32.maxValue.toInt)
    (hroom : 0x7f0000000000 + footprints lengths < UInt64.size) :
    Healthy spare lengths {} where
  settings := rfl
  descriptors := by
    have hfd : (3 : Int32).toInt = 3 := by decide
    refine ⟨by decide, ?_, by simp⟩
    rwa [hfd]
  addresses := ⟨by decide, by decide, hroom⟩

namespace Healthy

variable (h : m.Healthy spare lengths)

include h

/-- What can be spared more than is needed can be spared. -/
theorem of_le {n : Nat} (hle : n ≤ spare) : m.Healthy n lengths where
  settings := h.settings
  descriptors := ⟨h.descriptors.nonneg, by have := h.descriptors.fits; omega, h.descriptors.lt⟩
  addresses := h.addresses

/-- A healthy kernel serves a call. -/
theorem call_eq (c : Call) : m.call c = { m with calls := m.calls ++ [c.syscall] }.serve c := by
  have hpoisoned : m.poisoned = false := congrArg poisoned h.settings
  have hpanic : m.panicOn = none := congrArg panicOn h.settings
  have hfailures : m.failures = [] := congrArg failures h.settings
  simp [MockKernel.call, hpoisoned, hpanic, hfailures]

/-- Every call is part of the ABI. -/
theorem supports_eq (syscall : Syscall) : m.supports syscall = .ok true := by
  have hpoisoned : m.poisoned = false := congrArg poisoned h.settings
  have hunsupported : m.unsupported = [] := congrArg unsupported h.settings
  simp [MockKernel.supports, hpoisoned, hunsupported]

/-- Health depends on the settings, on what comes next, and on the open descriptors. -/
theorem of_frame (hsettings : m'.settings = m.settings) (hnext : m'.nextFd = m.nextFd)
    (hbase : m'.nextMapBase = m.nextMapBase) (hopen : m'.openFds ⊆ m.openFds) :
    m'.Healthy spare lengths where
  settings := hsettings.trans h.settings
  descriptors := by
    refine ⟨?_, ?_, fun fd hfd => ?_⟩ <;> rw [hnext]
    · exact h.descriptors.nonneg
    · exact h.descriptors.fits
    · exact h.descriptors.lt fd (hopen hfd)
  addresses := by
    refine ⟨?_, ?_, ?_⟩ <;> rw [hbase]
    · exact h.addresses.pos
    · exact h.addresses.aligned
    · exact h.addresses.fits

/-- Health does not depend on which calls were noted. -/
theorem noted (calls : List Syscall) : Healthy spare lengths { m with calls } :=
  h.of_frame rfl rfl rfl (List.Subset.refl _)

end Healthy

/-! ## Calls that take nothing -/

/-- Whether a call takes a descriptor or room. -/
def takes : Call → Bool
  | .openFile .. | .openAt .. | .mmap _ => true
  | _ => false

/-- Whether the reply to a call depends on what calls before it left. -/
def varies : Call → Bool
  | .openFile .. | .openAt .. | .mmap _ | .read .. | .close _ => true
  | _ => false

/-- What a call that takes nothing leaves. -/
theorem serve_frame {c : Call} (hc : takes c = false) :
    (m.serve c).2.settings = m.settings ∧ (m.serve c).2.nextFd = m.nextFd ∧
      (m.serve c).2.nextMapBase = m.nextMapBase ∧ (m.serve c).2.openFds ⊆ m.openFds := by
  cases c with
  | openFile path flags mode => cases hc
  | openAt dirfd path flags mode => cases hc
  | mmap request => cases hc
  | read fd n =>
    simp only [serve]
    split <;> exact ⟨rfl, rfl, rfl, List.Subset.refl _⟩
  | close fd =>
    simp only [serve]
    split
    · exact ⟨rfl, rfl, rfl, List.erase_subset⟩
    · exact ⟨rfl, rfl, rfl, List.Subset.refl _⟩
  | futexWait word expected timeout =>
    simp only [serve]
    split
    · exact ⟨rfl, rfl, rfl, List.Subset.refl _⟩
    · split <;> exact ⟨rfl, rfl, rfl, List.Subset.refl _⟩
  | clone stack word status =>
    simp only [serve]
    split <;> exact ⟨rfl, rfl, rfl, List.Subset.refl _⟩
  | execve request =>
    have hfds : (if m.dropFdsOnExec then [] else m.openFds) ⊆ m.openFds := by
      split
      · exact List.nil_subset _
      · exact List.Subset.refl _
    simp only [serve]
    split <;> exact ⟨rfl, rfl, rfl, hfds⟩
  | _ => exact ⟨rfl, rfl, rfl, List.Subset.refl _⟩

/-- The reply to a call that does not depend on earlier calls is that of the settings. -/
theorem serve_settings {c : Call} (hc : varies c = false) :
    (m.serve c).1 = (m.settings.serve c).1 := by
  cases c with
  | openFile path flags mode => cases hc
  | openAt dirfd path flags mode => cases hc
  | read fd n => cases hc
  | close fd => cases hc
  | mmap request => cases hc
  | futexWait word expected timeout =>
    simp only [serve]
    split
    · rfl
    · split <;> rfl
  | clone stack word status => cases hexits : m.childExits <;> simp [serve, settings, hexits]
  | execve request =>
    by_cases hpath : request.path.text ∈ m.executables <;> simp [serve, settings, hpath]
  | _ => rfl

namespace Healthy

variable (h : m.Healthy spare lengths)

include h

/-- A healthy kernel replies as a fresh one to a call that does not depend on earlier calls. -/
theorem reply_eq {c : Call} (hc : varies c = false) :
    (m.call c).1 = (serve {} c).1 := by
  rw [h.call_eq, serve_settings hc]
  exact congrArg (fun m => (serve m c).1) h.settings

/-- A call that takes nothing leaves a healthy kernel healthy. -/
theorem step {c : Call} (hc : takes c = false) : (m.call c).2.Healthy spare lengths := by
  obtain ⟨hsettings, hnext, hbase, hopen⟩ :=
    serve_frame (m := { m with calls := m.calls ++ [c.syscall] }) hc
  rw [h.call_eq]
  exact (h.noted _).of_frame hsettings hnext hbase hopen

/-- Calls that take nothing leave a healthy kernel healthy. -/
theorem run (hserves : m.Serves j m') (hcalls : ∀ c ∈ j.calls, takes c = false) :
    m'.Healthy spare lengths := by
  induction j generalizing m with
  | nil => exact hserves ▸ h
  | cons e j ih =>
    obtain ⟨q, answer⟩ := e
    cases q with
    | call c =>
      rw [Journal.calls_cons] at hcalls
      obtain ⟨hc, hcalls⟩ := List.forall_mem_cons.mp hcalls
      exact ih (h.step hc) hserves.2 hcalls
    | supports syscall => exact ih h hserves.2 hcalls
    | load last => exact ih h hserves.2 hcalls
    | _ => exact ih h hserves hcalls

/-! ### Descriptors -/

/-- Of the calls that take nothing, only a close changes which descriptors are open. -/
theorem openFds_eq {c : Call} (hc : takes c = false) (hclose : c.syscall ≠ .close) :
    (m.call c).2.openFds = m.openFds := by
  have hdrop : m.dropFdsOnExec = false := congrArg dropFdsOnExec h.settings
  rw [h.call_eq]
  cases c with
  | openFile path flags mode => cases hc
  | openAt dirfd path flags mode => cases hc
  | mmap request => cases hc
  | close fd => exact absurd rfl hclose
  | read fd n =>
    simp only [serve]
    split <;> rfl
  | futexWait word expected timeout =>
    simp only [serve]
    split
    · rfl
    · split <;> rfl
  | clone stack word status =>
    simp only [serve]
    split <;> rfl
  | execve request =>
    simp only [serve, hdrop, Bool.false_eq_true, if_false]
    split <;> rfl
  | _ => rfl

/-- A read from an open descriptor comes to the end of the file. -/
theorem read_eq {fd : Int32} (hfd : fd ∈ m.openFds) (n : Nat) :
    (m.call (.read fd n)).1 = .value { count := 0 } := by
  simp [h.call_eq, serve, hfd]

/-- An open descriptor can be closed, and is gone then. -/
theorem close_eq {fd : Int32} (hfd : fd ∈ m.openFds) :
    (m.call (.close fd)).1 = .value () ∧ (m.call (.close fd)).2.openFds = m.openFds.erase fd := by
  simp [h.call_eq, serve, hfd]

/-! ### Programs -/

/-- There is one program. -/
theorem execve_missing {request : ExecRequest} (hpath : request.path.text ≠ "/usr/statx") :
    (m.call (.execve request)).1 = .failed (.of .execve .enoent) := by
  rw [h.reply_eq rfl]
  simp [serve, hpath]

theorem execve_existing {request : ExecRequest} (hpath : request.path.text = "/usr/statx") :
    (m.call (.execve request)).1 = .value 0 := by
  rw [h.reply_eq rfl]
  simp [serve, hpath]

end Healthy

/-! ### Descriptors to spare -/

/-- The next descriptor is not negative. -/
theorem Healthy.nextFd_nonneg (h : m.Healthy spare lengths) : 0 ≤ m.nextFd :=
  Int32.le_iff_toInt_le.mpr h.descriptors.nonneg

/-- The next descriptor is not open. -/
theorem Healthy.nextFd_notMem (h : m.Healthy spare lengths) : m.nextFd ∉ m.openFds :=
  fun hfd => Int.lt_irrefl _ (h.descriptors.lt _ hfd)

/-- Handing out a descriptor takes one of those to spare. -/
theorem Healthy.allocate (h : m.Healthy (spare + 1) lengths) :
    m.allocateDescriptor.1 = .value m.nextFd ∧
      m.allocateDescriptor.2.openFds = m.openFds ++ [m.nextFd] ∧
      m.allocateDescriptor.2.Healthy spare lengths := by
  have hnonneg := h.descriptors.nonneg
  have hfits := h.descriptors.fits
  have hvalue : Int32.maxValue.toInt = 2147483647 := by decide
  have hmax : m.nextFd ≠ Int32.maxValue := by
    intro heq
    rw [heq] at hfits
    omega
  have hnext : (m.nextFd + 1).toInt = m.nextFd.toInt + 1 := by
    have hone : (1 : Int32).toInt = 1 := by decide
    rw [Int32.toInt_add, hone, Int.bmod_eq_of_le (by omega) (by omega)]
  simp only [allocateDescriptor, if_neg hmax]
  refine ⟨trivial, trivial, h.settings, ⟨?_, ?_, ?_⟩, h.addresses.pos, h.addresses.aligned,
    h.addresses.fits⟩
  · rw [hnext]
    omega
  · rw [hnext]
    omega
  · intro fd hfd
    rw [hnext]
    rcases List.mem_append.mp hfd with hfd | hfd
    · have := h.descriptors.lt fd hfd
      omega
    · rw [List.mem_singleton.mp hfd]
      omega

theorem Healthy.openFile (h : m.Healthy (spare + 1) lengths) (path : CText) (flags : Int32)
    (mode : UInt32) :
    (m.call (.openFile path flags mode)).1 = .value m.nextFd ∧
      (m.call (.openFile path flags mode)).2.openFds = m.openFds ++ [m.nextFd] ∧
      (m.call (.openFile path flags mode)).2.Healthy spare lengths := by
  rw [h.call_eq]
  exact (h.noted _).allocate

theorem Healthy.openAt (h : m.Healthy (spare + 1) lengths) (dirfd : Int32) (path : CText)
    (flags : Int32) (mode : UInt32) :
    (m.call (.openAt dirfd path flags mode)).1 = .value m.nextFd ∧
      (m.call (.openAt dirfd path flags mode)).2.openFds = m.openFds ++ [m.nextFd] ∧
      (m.call (.openAt dirfd path flags mode)).2.Healthy spare lengths := by
  rw [h.call_eq]
  exact (h.noted _).allocate

/-! ### Mappings -/

/-- If there is room for a mapping, it is made at the next address. -/
theorem Room.nextBase_eq (h : m.Room (length :: lengths)) :
    nextBase m.nextMapBase length = .ok (.ofNat (m.nextMapBase.toNat + footprint length)) := by
  have hfits := h.fits
  rw [footprints_cons] at hfits
  have hfootprint :
      (length.toNat + pageSize - 1) / pageSize * pageSize + pageSize = footprint length := rfl
  simp only [nextBase, hfootprint]
  rw [if_neg (by omega), if_neg (by omega), if_neg (by omega)]

/-- A mapping takes its footprint of the room. -/
theorem Healthy.mmap (h : m.Healthy spare (length :: lengths)) :
    (m.call (.mmap (.anonymousReadOnly length))).1
        = .value (.ofRequest m.nextMapBase (.anonymousReadOnly length)) ∧
      (m.call (.mmap (.anonymousReadOnly length))).2.Healthy spare lengths := by
  have hfits := h.addresses.fits
  rw [footprints_cons] at hfits
  have hpages : pageSize ∣ footprint length := ⟨(length.toNat + pageSize - 1) / pageSize + 1, by
    unfold footprint
    rw [Nat.mul_add, Nat.mul_one, Nat.mul_comm]⟩
  have hnext : (UInt64.ofNat (m.nextMapBase.toNat + footprint length)).toNat
      = m.nextMapBase.toNat + footprint length := by
    exact UInt64.toNat_ofNat_of_lt' (by omega)
  have hbase : nextBase m.nextMapBase (MapRequest.anonymousReadOnly length).length = _ :=
    h.addresses.nextBase_eq
  rw [h.call_eq]
  simp only [serve, hbase]
  refine ⟨trivial, h.settings, ⟨h.descriptors.nonneg, h.descriptors.fits, h.descriptors.lt⟩, ?_⟩
  refine ⟨?_, ?_, ?_⟩
  · rw [hnext]
    exact Nat.add_pos_left h.addresses.pos _
  · rw [hnext]
    exact Nat.dvd_add h.addresses.aligned hpages
  · rw [hnext]
    omega

/-- Room that is not used stays. -/
theorem Healthy.unused (h : m.Healthy spare (length :: lengths)) : m.Healthy spare lengths where
  settings := h.settings
  descriptors := h.descriptors
  addresses := by
    have hfits := h.addresses.fits
    rw [footprints_cons] at hfits
    exact ⟨h.addresses.pos, h.addresses.aligned, by omega⟩

end MockKernel

end KernelProbe
