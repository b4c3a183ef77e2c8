import KernelProbe.Proofs.Program.Steps

/-!
# What a step can be stopped by

A step that stops passes on what it met: the error of a call, or a fault. `Grounds` says which
errors and which faults there may be. `Step.Founded G Q s` says that a step which meets no others
(`Journal.Founded`) stops with one of them, or with an error that is not about a failed call, and
that the value it comes to is in `Q`. There is one rule for each way of making a step.
-/

namespace KernelProbe

/-- Which errors of calls there may be, and which faults, up to a probe's cleanup and in it. -/
structure Grounds where
  /-- The errors. -/
  error : SyscallError → Prop
  /-- The faults up to the cleanup. -/
  fault : Fault → Prop
  /-- The faults of the cleanup. -/
  cleanup : Fault → Prop

variable (G : Grounds)

/-- An error that stands for the failure of a call, or for a fault, stands for one that there may
be. -/
def ProbeError.Founded : ProbeError → Prop
  | setup .. | assertion .. => True
  | unexpected cause => G.error cause
  | panicked message => (∃ fault, G.fault fault ∧ message = fault.message) ∨
      ∃ fault, G.cleanup fault ∧ message = "cleanup: " ++ fault.message

/-- A reason to stop that there may be. -/
def Halt.Founded : Halt → Prop
  | failed error => error.Founded G
  | panicked fault => G.fault fault

namespace Grounds

/-- A negative value of `execve` stands for an error whose number is not known. -/
def Value : (c : Call) → c.Value → Prop
  | .execve _, (ret : Int64) => ret < 0 → G.error ⟨.execve, ret, .unknown⟩
  | _, _ => True

/-- A call gave a value, or failed with an error of its own that there may be. -/
def Attempted (c : Call) : Except SyscallError c.Value → Prop
  | .ok v => G.Value c v
  | .error e => e.syscall = c.syscall ∧ G.error e

/-- The error or fault in an answer is one that there may be. -/
def Answer : (q : Request) → q.Answer → Prop
  | .supports _, known => ∀ fault, known = .error fault → G.fault fault
  | .call c, reply => (∀ x, reply.returned.attempted = .ok x → G.Attempted c x) ∧
      ∀ fault, reply.returned = .panicked fault → G.fault fault
  | _, _ => True

/-- The result is a value in `Q`, or a reason to stop that there may be. -/
def Result {α : Type} (Q : α → Prop) : Except Halt α → Prop
  | .ok a => Q a
  | .error h => h.Founded G

end Grounds

/-- The errors and faults in all answers are among those that there may be. -/
def Journal.Founded (j : Journal) : Prop := ∀ e ∈ j, G.Answer e.request e.answer

variable {G}

theorem Journal.founded_append {j₁ j₂ : Journal} :
    Founded G (j₁ ++ j₂) ↔ j₁.Founded G ∧ j₂.Founded G := List.forall_mem_append

namespace Step

open Staged

variable {C α β : Type} {Q : α → Prop} {R : β → Prop}

/-- If all answers are founded, so is the reason for which the step stops, and the value that it
comes to is in `Q`. -/
def Founded (G : Grounds) (Q : α → Prop) (s : Step C α) : Prop :=
  ∀ ⦃c j r c'⦄, Journal.Founded G j → s.Plays c j r c' → G.Result Q r

theorem founded_pure {a : α} (h : Q a) : Founded G Q (pure a : Step C α) := by
  intro c j r c' _ hplays
  obtain ⟨-, rfl, -⟩ := plays_pure.mp hplays
  exact h

theorem founded_fail {error : ProbeError} (h : error.Founded G) :
    Founded G Q (fail error : Step C α) := by
  intro c j r c' _ hplays
  obtain ⟨-, rfl, -⟩ := plays_fail.mp hplays
  exact h

theorem founded_panic {fault : Fault} (h : G.fault fault) :
    Founded G Q (panic fault : Step C α) := by
  intro c j r c' _ hplays
  obtain ⟨-, rfl, -⟩ := plays_panic.mp hplays
  exact h

theorem founded_modify (f : C → C) : Founded G (fun _ => True) (modify f : Step C PUnit) := by
  intro c j r c' _ hplays
  obtain ⟨-, rfl, -⟩ := plays_modify.mp hplays
  trivial

/-- What is founded behind every value of a first part is founded behind the first part. -/
theorem Founded.bind {s : Step C α} {t : α → Step C β} (hs : Founded G Q s)
    (ht : ∀ a, Q a → Founded G R (t a)) : Founded G R (s >>= t) := by
  intro c j r c' hj hplays
  obtain ⟨e, hfirst, rfl⟩ | ⟨j₁, a, c₁, j₂, rfl, hfirst, hrest⟩ := plays_bind.mp hplays
  · exact hs hj hfirst
  · obtain ⟨hj₁, hj₂⟩ := Journal.founded_append.mp hj
    exact ht a (hs hj₁ hfirst) hj₂ hrest

theorem founded_fail_bind {error : ProbeError} {t : β → Step C α} (h : error.Founded G) :
    Founded G Q (fail error >>= t) := (founded_fail h).bind fun _ => False.elim

theorem founded_ite {p : Prop} [Decidable p] {s t : Step C α} (hs : Founded G Q s)
    (ht : Founded G Q t) : Founded G Q (if p then s else t) := by
  split
  · exact hs
  · exact ht

theorem founded_get_bind {t : C → Step C β} (h : ∀ c, Founded G R (t c)) :
    Founded G R (get >>= t) := fun _ _ _ _ hj hplays => h _ hj (plays_get_bind.mp hplays)

theorem founded_ask (q : Request) : Founded G (G.Answer q) (ask q : Step C q.Answer) := by
  intro c j r c' hj hplays
  obtain ⟨a, rfl, rfl, -⟩ := (plays_ask q).mp hplays
  exact hj _ List.mem_cons_self

theorem founded_clock : Founded G (fun _ => True) (clock : Step C Instant) := founded_ask .clock

theorem founded_log (event : LogEvent) : Founded G (fun _ => True) (log event : Step C Unit) :=
  founded_ask (.log event)

theorem founded_ofExcept {x : Except Fault α} (hok : ∀ a, x = .ok a → Q a)
    (herror : ∀ fault, x = .error fault → G.fault fault) :
    Founded G Q (ofExcept x : Step C α) := by
  cases x with
  | ok a => exact founded_pure (hok a rfl)
  | error fault => exact founded_panic (herror fault rfl)

theorem founded_supports (syscall : Syscall) :
    Founded G (fun _ => True) (supports syscall : Step C Bool) :=
  (founded_ask (.supports syscall)).bind fun _ hknown =>
    founded_ofExcept (fun _ _ => trivial) hknown

/-- A step that fails without a system call. -/
theorem founded_unless_supports (syscall : Syscall) {error : ProbeError} (h : error.Founded G) :
    Founded G (fun _ => True) (do unless ← supports syscall do fail error : Step C Unit) := by
  refine (founded_supports syscall).bind fun known _ => ?_
  cases known with
  | false => exact founded_fail h
  | true => exact founded_pure trivial

theorem founded_attemptStoring (c : Call) (store : UInt32 → C → C) :
    Founded G (G.Attempted c) (attemptStoring c store) := by
  intro c₀ j r c' hj hplays
  obtain ⟨reply, rfl, rfl, -⟩ := (plays_attemptStoring c store).mp hplays
  obtain ⟨hattempted, hfault⟩ := hj _ List.mem_cons_self
  cases hresult : reply.returned.attempted with
  | ok x => exact hattempted x hresult
  | error halt =>
    obtain ⟨fault, hreturned, rfl⟩ := Returned.attempted_eq_error.mp hresult
    exact hfault fault hreturned

theorem founded_attempt (c : Call) :
    Founded G (G.Attempted c) (attempt c : Step C (Except SyscallError c.Value)) :=
  founded_attemptStoring c fun _ => id

theorem founded_call (c : Call) : Founded G (G.Value c) (Step.call c : Step C c.Value) := by
  refine (founded_attempt c).bind ?_
  rintro (e | a) ha
  · exact founded_fail ha.2
  · exact founded_pure ha

theorem founded_need (message : String) (c : Call) :
    Founded G (G.Value c) (need message c : Step C c.Value) := by
  refine (founded_attempt c).bind ?_
  rintro (e | a) ha
  · exact founded_fail trivial
  · exact founded_pure ha

end Step

end KernelProbe
