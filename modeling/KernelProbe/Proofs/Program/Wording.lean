import KernelProbe.Proofs.Program.Steps
import KernelProbe.Proofs.Text.Lines

/-!
# What a step can say

Two things that a kernel hands out come out in a log as they are: the texts of its identification,
and the faults of the code that makes the calls. A `Wording` says which texts and which faults there
may be. `Step.Worded W Q s` says that a step which meets no others (`Journal.Worded`) stops for a
reason that is put in these words only, and that the value it comes to is in `Q`. There is one rule
for each way of making a step.
-/

namespace KernelProbe

/-- Which texts and which faults there may be; a text without a line break may always be. -/
structure Wording where
  /-- The texts. -/
  text : String → Prop
  /-- The faults. -/
  fault : Fault → Prop
  /-- Texts of one line are among them. -/
  plain : ∀ s, Text.OneLine s → text s

variable (W : Wording)

/-- An error in these words: texts of one line, unless it tells a fault. -/
def ProbeError.Worded : ProbeError → Prop
  | setup message _ | assertion message _ => Text.OneLine message
  | unexpected _ => True
  | panicked message => ∃ fault, W.fault fault ∧
      (message = fault.message ∨ message = "cleanup: " ++ fault.message)

/-- A reason to stop in these words. -/
def Halt.Worded : Halt → Prop
  | failed error => error.Worded W
  | panicked fault => W.fault fault

namespace Wording

/-- The texts in the value of a call are allowed: only the kernel's identification has any. -/
def Value : (c : Call) → c.Value → Prop
  | .uname, uts => ∀ field ∈ uts.fields, W.text field.2
  | _, _ => True

/-- The texts and the fault in an answer are allowed. -/
def Answer : (q : Request) → q.Answer → Prop
  | .supports _, known => ∀ fault, known = .error fault → W.fault fault
  | .call c, reply => (∀ v, reply.returned = .value v → W.Value c v) ∧
      ∀ fault, reply.returned = .panicked fault → W.fault fault
  | _, _ => True

/-- The result is a value in `Q`, or a reason to stop in these words. -/
def Result {α : Type} (Q : α → Prop) : Except Halt α → Prop
  | .ok a => Q a
  | .error h => h.Worded W

end Wording

/-- The texts and faults in all answers are allowed. -/
def Journal.Worded (j : Journal) : Prop := ∀ e ∈ j, W.Answer e.request e.answer

/-- No log event tells of a group whose teardown gave up. -/
def Journal.Orderly (j : Journal) : Prop :=
  ∀ event ∈ j.logs, event.message ≠ "Group teardown panicked"

/-- All answers of a kernel are in these words. -/
structure Kernel.Worded {κ : Type} (kernel : Kernel κ) : Prop where
  supports : ∀ syscall k, W.Answer (.supports syscall) (kernel.supports syscall k).1
  call : ∀ c k, W.Answer (.call c) (kernel.call c k).1

variable {W}

@[simp] theorem Journal.orderly_nil : Orderly [] := by simp [Orderly, logs]

@[simp] theorem Journal.orderly_append {j₁ j₂ : Journal} :
    Orderly (j₁ ++ j₂) ↔ j₁.Orderly ∧ j₂.Orderly := by
  rw [Orderly, logs, List.filterMap_append]
  exact List.forall_mem_append

@[simp] theorem Journal.orderly_cons {e : Entry} {j : Journal} :
    Orderly (e :: j) ↔ (∀ event, e.log? = some event → event.message ≠ "Group teardown panicked") ∧
      j.Orderly := by
  rw [Orderly, logs, List.filterMap_cons]
  cases e.log? with
  | none => simp [Orderly, logs]
  | some event => simp [Orderly, logs]

/-- A run against a kernel that answers in these words is answered in these words. -/
theorem Program.run_worded {α κ ρ : Type} {kernel : Kernel κ} (hkernel : kernel.Worded W)
    (reporter : Reporter ρ) (p : Program α) (k : κ) (r : ρ) :
    (p.run kernel reporter k r).journal.Worded W := by
  induction p generalizing k r with
  | pure a => exact List.forall_mem_nil _
  | ask q next ih =>
    refine List.forall_mem_cons.mpr ⟨?_, ih _ _ _⟩
    cases q with
    | supports syscall => exact hkernel.supports syscall k
    | call c => exact hkernel.call c k
    | _ => trivial

theorem Journal.worded_append {j₁ j₂ : Journal} :
    Worded W (j₁ ++ j₂) ↔ j₁.Worded W ∧ j₂.Worded W := List.forall_mem_append

theorem Journal.worded_cons {e : Entry} {j : Journal} :
    Worded W (e :: j) ↔ W.Answer e.request e.answer ∧ j.Worded W := List.forall_mem_cons

theorem ProbeError.worded_setupCall {message : String} (h : Text.OneLine message)
    (e : SyscallError) : (setupCall message e).Worded W := by
  simp +decide [setupCall, Worded, h]

namespace Step

open Staged

variable {C α β : Type} {Q : α → Prop} {R : β → Prop}

/-- If all answers are in these words, so is the reason for which the step stops, the value that it
comes to is in `Q`, and the journal is orderly. -/
def Worded (W : Wording) (Q : α → Prop) (s : Step C α) : Prop :=
  ∀ ⦃c j r c'⦄, Journal.Worded W j → s.Plays c j r c' → W.Result Q r ∧ j.Orderly

theorem worded_pure {a : α} (h : Q a) : Worded W Q (pure a : Step C α) := by
  intro c j r c' _ hplays
  obtain ⟨rfl, rfl, -⟩ := plays_pure.mp hplays
  exact ⟨h, Journal.orderly_nil⟩

theorem worded_fail {error : ProbeError} (h : error.Worded W) :
    Worded W Q (fail error : Step C α) := by
  intro c j r c' _ hplays
  obtain ⟨rfl, rfl, -⟩ := plays_fail.mp hplays
  exact ⟨h, Journal.orderly_nil⟩

theorem worded_panic {fault : Fault} (h : W.fault fault) :
    Worded W Q (panic fault : Step C α) := by
  intro c j r c' _ hplays
  obtain ⟨rfl, rfl, -⟩ := plays_panic.mp hplays
  exact ⟨h, Journal.orderly_nil⟩

theorem worded_modify (f : C → C) : Worded W (fun _ => True) (modify f : Step C PUnit) := by
  intro c j r c' _ hplays
  obtain ⟨rfl, rfl, -⟩ := plays_modify.mp hplays
  exact ⟨trivial, Journal.orderly_nil⟩

/-- What is worded behind every value of a first part is worded behind the first part. -/
theorem Worded.bind {s : Step C α} {t : α → Step C β} (hs : Worded W Q s)
    (ht : ∀ a, Q a → Worded W R (t a)) : Worded W R (s >>= t) := by
  intro c j r c' hj hplays
  obtain ⟨e, hfirst, rfl⟩ | ⟨j₁, a, c₁, j₂, rfl, hfirst, hrest⟩ := plays_bind.mp hplays
  · exact hs hj hfirst
  · obtain ⟨hj₁, hj₂⟩ := Journal.worded_append.mp hj
    obtain ⟨ha, horderly₁⟩ := hs hj₁ hfirst
    obtain ⟨hr, horderly₂⟩ := ht a ha hj₂ hrest
    exact ⟨hr, Journal.orderly_append.mpr ⟨horderly₁, horderly₂⟩⟩

theorem worded_fail_bind {error : ProbeError} {t : β → Step C α} (h : error.Worded W) :
    Worded W Q (fail error >>= t) := (worded_fail h).bind fun _ => False.elim

theorem worded_ite {p : Prop} [Decidable p] {s t : Step C α} (hs : p → Worded W Q s)
    (ht : ¬p → Worded W Q t) : Worded W Q (if p then s else t) := by
  split
  next h => exact hs h
  next h => exact ht h

theorem worded_get_bind {t : C → Step C β} (h : ∀ c, Worded W R (t c)) :
    Worded W R (get >>= t) := fun _ _ _ _ hj hplays => h _ hj (plays_get_bind.mp hplays)

theorem worded_ask (q : Request)
    (hlog : ∀ event, q = .log event → event.message ≠ "Group teardown panicked") :
    Worded W (W.Answer q) (ask q : Step C q.Answer) := by
  intro c j r c' hj hplays
  obtain ⟨a, rfl, rfl, -⟩ := (plays_ask q).mp hplays
  refine ⟨hj _ List.mem_cons_self, ?_⟩
  cases q with
  | log event => simpa [Entry.log?] using hlog event
  | _ => simp [Entry.log?]

theorem worded_clock : Worded W (fun _ => True) (clock : Step C Instant) := worded_ask .clock nofun

theorem worded_load (last : UInt32) : Worded W (fun _ => True) (load last : Step C UInt32) :=
  worded_ask (.load last) nofun

theorem worded_log {event : LogEvent} (h : event.message ≠ "Group teardown panicked") :
    Worded W (fun _ => True) (log event : Step C Unit) := by
  refine worded_ask (.log event) ?_
  rintro _ ⟨⟩
  exact h

theorem worded_ofExcept {x : Except Fault α} (hok : ∀ a, x = .ok a → Q a)
    (herror : ∀ fault, x = .error fault → W.fault fault) :
    Worded W Q (ofExcept x : Step C α) := by
  cases x with
  | ok a => exact worded_pure (hok a rfl)
  | error fault => exact worded_panic (herror fault rfl)

theorem worded_supports (syscall : Syscall) :
    Worded W (fun _ => True) (supports syscall : Step C Bool) :=
  (worded_ask (.supports syscall) nofun).bind fun _ hknown =>
    worded_ofExcept (fun _ _ => trivial) hknown

/-- A step that fails without a system call. -/
theorem worded_unless_supports (syscall : Syscall) {error : ProbeError} (h : error.Worded W) :
    Worded W (fun _ => True) (do unless ← supports syscall do fail error : Step C Unit) := by
  refine (worded_supports syscall).bind fun known _ => ?_
  cases known with
  | false => exact worded_fail h
  | true => exact worded_pure trivial

/-- What an attempt comes to, if it comes to a value, is in these words. -/
theorem worded_attemptStoring (c : Call) (store : UInt32 → C → C) :
    Worded W (fun x => ∀ v, x = .ok v → W.Value c v) (attemptStoring c store) := by
  intro c₀ j r c' hj hplays
  obtain ⟨reply, rfl, rfl, -⟩ := (plays_attemptStoring c store).mp hplays
  obtain ⟨hvalue, hfault⟩ := hj _ List.mem_cons_self
  refine ⟨?_, by simp [Entry.log?]⟩
  cases hreturned : reply.returned with
  | value a =>
    rintro v ⟨⟩
    exact hvalue a hreturned
  | failed e => rintro v ⟨⟩
  | panicked fault => exact hfault fault hreturned

theorem worded_attempt (c : Call) :
    Worded W (fun x => ∀ v, x = .ok v → W.Value c v)
      (attempt c : Step C (Except SyscallError c.Value)) :=
  worded_attemptStoring c fun _ => id

theorem worded_call (c : Call) : Worded W (W.Value c) (Step.call c : Step C c.Value) := by
  refine (worded_attempt c).bind ?_
  rintro (e | a) ha
  · exact worded_fail trivial
  · exact worded_pure (ha a rfl)

theorem worded_need {message : String} (h : Text.OneLine message) (c : Call) :
    Worded W (W.Value c) (need message c : Step C c.Value) := by
  refine (worded_attempt c).bind ?_
  rintro (e | a) ha
  · exact worded_fail (ProbeError.worded_setupCall h e)
  · exact worded_pure (ha a rfl)

end Step

end KernelProbe
