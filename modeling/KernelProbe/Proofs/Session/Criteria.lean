import Mathlib.Logic.Function.Basic
import KernelProbe.Proofs.Session.Roster

/-!
# When a probe passes

`ProbeId.Passes c heard i` says of a probe of the standard battery when it passes, in terms of what
the probes heard from the kernel: the dealings that led to their records. What a probe finds in the
context of its group is what earlier probes of the group heard.

`Conforms c Inv i later t` says that a trial keeps to the criterion of the probe `i`, given an
invariant between what was heard and the context.
-/

namespace KernelProbe

open Function

/-- What each probe heard from the kernel. -/
abbrev Heard := ProbeId → Journal

/-- The relation that a model of thread ids asks for. -/
def ThreadIdModel.Admits (model : ThreadIdModel) (tid pid : Int32) : Prop :=
  match model with
  | matchesPid => tid = pid
  | distinct => tid ≠ pid
  | unchecked => True

theorem ThreadIdModel.mismatch?_eq_none {model : ThreadIdModel} {tid pid : Int32} :
    model.mismatch? tid pid = none ↔ model.Admits tid pid := by
  cases model <;> simp [mismatch?, Admits]

namespace Heard

variable (heard : Heard)

/-- The getpid probe passed with the process id. -/
def Pid (pid : Int32) : Prop := (heard .getpid).CameBack .getpid (.value pid) ∧ 0 < pid

/-- The open probe passed with the descriptor. -/
def ReadFd (fd : Int32) : Prop :=
  (heard .openFile).CameBack (.openFile Files.nullDevice Files.createFlag Files.createMode)
    (.value fd) ∧ 0 ≤ fd

/-- One of the probes ahead of the close probe opened the descriptor. -/
def Opened (fd : Int32) : Prop :=
  (heard .openFile).CameBack (.openFile Files.nullDevice Files.createFlag Files.createMode)
      (.value fd) ∨
    (heard .openAt).CameBack (.openAt Files.bogusDirectory Files.nullDevice Files.createFlag
      Files.createMode) (.value fd) ∨
    (heard .read).CameBack (Files.openTarget Files.nullDevice) (.value fd)

/-- The mmap probe of the length made the mapping, which does not start at null. -/
def Mapped (length : UInt64) (region : MemoryRegion) : Prop :=
  (heard (.mmap length)).CameBack (.mmap (.anonymousReadOnly length)) (.value region) ∧
    region.base ≠ 0

/-- The clone probe made a child. -/
def Cloned : Prop :=
  ∃ stack tid, (heard .clone).CameBack (.clone stack 0 Concurrency.childStatus) (.value tid)

end Heard

/-- When a probe passes, given what it and the probes before it heard. -/
def ProbeId.Passes (c : HarnessConfig) (heard : Heard) : ProbeId → Prop
  | write => (heard .write).CameBack (.write c.outputFd Output.message) (.value 16)
  | writev => (heard .writev).CameBack (.writev c.outputFd Output.parts) (.value 19)
  | setThreadArea =>
    (⟨.supports .setThreadArea, .ok true⟩ : Entry) ∈ heard .setThreadArea ∧
      ∃ slot, (heard .setThreadArea).CameBack (.setThreadArea Identity.unassigned) (.value slot) ∧
        c.tlsSlots.contains slot = true
  | getpid => ∃ pid, heard.Pid pid
  | gettid =>
    ∃ tid, (heard .gettid).CameBack .gettid (.value tid) ∧ 0 < tid ∧
      (c.threadIdModel ≠ .unchecked → ∃ pid, c.threadIdModel.Admits tid pid ∧
        (heard.Pid pid ∨
          (∀ pid', ¬ heard.Pid pid') ∧ (heard .gettid).CameBack .getpid (.value pid)))
  | schedYield => (heard .schedYield).CameBack .schedYield (.value ())
  | openFile =>
    (⟨.supports .openFile, .ok true⟩ : Entry) ∈ heard .openFile ∧ ∃ fd, heard.ReadFd fd
  | openAt =>
    ∃ fd, (heard .openAt).CameBack (.openAt Files.bogusDirectory Files.nullDevice Files.createFlag
      Files.createMode) (.value fd) ∧ 0 ≤ fd
  | read =>
    ∃ fd data, (heard .read).CameBack (.read fd 2) (.value data) ∧ data.count = 0 ∧
      (heard.ReadFd fd ∨ (∀ fd', ¬ heard.ReadFd fd') ∧
        (heard .read).CameBack (Files.openTarget Files.nullDevice) (.value fd))
  | close =>
    (∃ fd, heard.Opened fd) ∧
      ∀ fd reply, (⟨.call (.close fd), reply⟩ : Entry) ∈ heard .close → reply.returned = .value ()
  | brk => ∃ stop, (heard .brk).CameBack (.brk 0) (.value stop) ∧ stop ≠ 0
  | mmap length => ∃ region, heard.Mapped length region ∧ c.pageSize.toNat ∣ region.base.toNat
  | mincore length =>
    ∃ region bytes, heard.Mapped length region ∧
      (heard (.mincore length)).CameBack
        (.mincore region (Memory.pageCount length c.pageSize + Memory.guardLength)) (.value bytes) ∧
      Memory.Filled (Memory.pageCount length c.pageSize)
        (Memory.filledVector (Memory.pageCount length c.pageSize + Memory.guardLength) bytes)
  | munmap length =>
    ∃ region, heard.Mapped length region ∧
      (heard (.munmap length)).CameBack (.munmap region) (.value ())
  | futexWait =>
    ∃ e, (heard .futexWait).CameBack (Concurrency.refusedWait c.waitTimeout) (.failed e) ∧
      e.errno = .eagain
  | futexWake =>
    ∃ word, (heard .futexWake).CameBack (.futexWake word Concurrency.wakeCount) (.value 0)
  | clone =>
    (⟨.supports .clone, .ok true⟩ : Entry) ∈ heard .clone ∧
      ∃ stack tid, (heard .clone).CameBack (.clone stack 0 Concurrency.childStatus) (.value tid) ∧
        0 < tid
  | cloneJoin => heard.Cloned ∧ (heard .cloneJoin).ReadZero
  | uname => ∃ uts, (heard .uname).CameBack .uname (.value uts) ∧ uts.sysname ≠ ""
  | execMissing =>
    ∃ request pid fd e data reply₁ reply₂ reply₃ reply₄ reply₅ reply₆,
      c.missingExecRequest = .ok request ∧
      heard .execMissing = [⟨.call .getpid, reply₁⟩, ⟨.call Lifecycle.openWitness, reply₂⟩,
        ⟨.call (.execve request), reply₃⟩, ⟨.call .getpid, reply₄⟩, ⟨.call (.read fd 1), reply₅⟩,
        ⟨.call (.close fd), reply₆⟩] ∧
      reply₁.returned = .value pid ∧ reply₂.returned = .value fd ∧
      (reply₃.returned = .failed e ∧ e.errno = .enoent) ∧ reply₄.returned = .value pid ∧
      reply₅.returned = .value data ∧ ∀ fault, reply₆.returned ≠ .panicked fault
  | execExisting =>
    c.execModel = .spawn ∧ ∃ request ret, c.execRequest = .ok request ∧
      (heard .execExisting).CameBack (.execve request) (.value ret) ∧ 0 ≤ ret

/-! ## Conforming to the criteria -/

section

variable {C Obs : Type} {c : HarnessConfig} {Inv : Heard → C → Prop} {i : ProbeId}
  {later : List ProbeId}

/-- The trial keeps to the criterion of a probe. It comes before the `later` probes, which heard
nothing yet, and keeps the invariant between what was heard and the context. -/
structure Conforms (c : HarnessConfig) (Inv : Heard → C → Prop) (i : ProbeId) (later : List ProbeId)
    (t : Trial C) : Prop where
  name : t.spec.name = i.name
  judged : ∀ {heard s own outcome evidence s'}, Inv heard s → (∀ k ∈ i :: later, heard k = []) →
    (t.run s).Plays own ((outcome, evidence), s') →
    Inv (update heard i own.kernel) s' ∧ (outcome = .pass ↔ i.Passes c (update heard i own.kernel))

/-- The trials keep to the criteria of probes one after another. -/
inductive ConformAll (c : HarnessConfig) (Inv : Heard → C → Prop) :
    List ProbeId → List (Trial C) → Prop
  | nil : ConformAll c Inv [] []
  | cons {i is t ts} (first : Conforms c Inv i is t) (rest : ConformAll c Inv is ts) :
    ConformAll c Inv (i :: is) (t :: ts)

/-- A probe without a cleanup conforms if its lifecycle does. -/
theorem conforms_of_course {p : Probe C Obs} (hname : p.spec.name = i.name)
    (hp : p.cleanup = pure ())
    (h : ∀ {heard s own r exam}, Inv heard s → (∀ k ∈ i :: later, heard k = []) →
      p.Course s own r exam → Inv (update heard i own.kernel) exam.context ∧
        (r = .ok () ↔ i.Passes c (update heard i own.kernel))) :
    Conforms c Inv i later p.trial where
  name := hname
  judged hinv hfresh plays := by
    obtain ⟨own, r, hcourse, hpass, hkernel, -⟩ := Probe.plays_trial_of_no_cleanup hp plays
    obtain ⟨hinv', hcriterion⟩ := h hinv hfresh hcourse
    rw [hkernel]
    exact ⟨hinv', hpass.trans hcriterion⟩

end

/-- The probes of the group keep to their criteria, if none of them heard anything before the
group. -/
def GroupConforms (c : HarnessConfig) (g : Group) (ids : List ProbeId) : Prop :=
  ∃ Inv : Heard → g.Context → Prop,
    (∀ heard : Heard, (∀ i : ProbeId, i.group = g.name → heard i = []) → Inv heard g.start) ∧
      ConformAll c Inv ids g.trials

end KernelProbe
