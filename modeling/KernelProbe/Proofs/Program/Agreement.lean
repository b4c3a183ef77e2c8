import KernelProbe.Proofs.Program.Steps

/-!
# Two runs beside each other

A kernel whose replies depend on the call alone (`Replies`) answers two runs of a step alike, as
long as the step asks the same in both. `Staged.Agree f timed S T R s₁ s₂` says so for two programs
from contexts that are related by `S`: they halt for the same reason or give values related by `R`,
and leave contexts related by `T`. Only the clock may go differently in the two runs, unless they
are `timed`; then it has to show the same times, and does.

There is one rule for each way of making a step.
-/

namespace KernelProbe

/-! ## Kernels without memory -/

/-- The answers of a kernel that has no memory: each depends on the question alone. -/
structure Replies where
  /-- Whether a system call is part of the ABI. -/
  supports : Syscall → Except Fault Bool
  /-- The reply to a call, with what the call stored. -/
  call : (c : Call) → Reply c.Value
  /-- What a shared word holds that held a value when last seen. -/
  load : UInt32 → UInt32

/-- The kernel answers like this in every state; nothing is said of its clock. -/
structure Kernel.Answers {κ : Type} (kernel : Kernel κ) (f : Replies) : Prop where
  supports : ∀ s k, (kernel.supports s k).1 = f.supports s
  call : ∀ c k, (kernel.call c k).1 = f.call c
  load : ∀ last k, (kernel.load last k).1 = f.load last

/-- A kernel that answers like this and has no clock to speak of. -/
def Replies.kernel (f : Replies) (now : Instant) : Kernel Unit where
  supports s k := (f.supports s, k)
  call c k := (f.call c, k)
  clock k := (now, k)
  load last k := (f.load last, k)

theorem Replies.answers_kernel (f : Replies) (now : Instant) : (f.kernel now).Answers f :=
  ⟨fun _ _ => rfl, fun _ _ => rfl, fun _ _ => rfl⟩

/-- The answer is the kernel's, if the question is one to the kernel. -/
def Entry.Follows (f : Replies) : Entry → Prop
  | ⟨.supports s, known⟩ => known = f.supports s
  | ⟨.call c, reply⟩ => reply = f.call c
  | ⟨.load last, word⟩ => word = f.load last
  | _ => True

/-- The time, if the entry is a reading of the clock. -/
def Entry.time? : Entry → Option Instant
  | ⟨.clock, now⟩ => some now
  | _ => none

namespace Journal

/-- The kernel's answers are these. -/
def Follows (f : Replies) (j : Journal) : Prop := ∀ e ∈ j, e.Follows f

/-- The times that the clock showed. -/
def times (j : Journal) : List Instant := j.filterMap Entry.time?

/-- The kernel gave the same answers in both runs, and if they are `timed`, the clock showed both of
them the same times, as far as each looked. -/
structure Twin (f : Replies) (timed : Prop) (j₁ j₂ : Journal) : Prop where
  left : j₁.Follows f
  right : j₂.Follows f
  clock : timed → ∃ times, j₁.times <+: times ∧ j₂.times <+: times

variable {f : Replies} {timed : Prop} {j₁ j₂ k₁ k₂ : Journal}

@[simp] theorem times_append : times (j₁ ++ j₂) = j₁.times ++ j₂.times := List.filterMap_append

theorem follows_append : Follows f (j₁ ++ j₂) ↔ j₁.Follows f ∧ j₂.Follows f :=
  List.forall_mem_append

/-- Without a clock to share, two journals with the same kernel are twins. -/
theorem twin_of_not_timed (h₁ : j₁.Follows f) (h₂ : j₂.Follows f) (h : ¬timed) :
    Twin f timed j₁ j₂ := ⟨h₁, h₂, fun ht => absurd ht h⟩

theorem Twin.front (h : Twin f timed (j₁ ++ k₁) (j₂ ++ k₂)) : Twin f timed j₁ j₂ where
  left := (follows_append.mp h.left).1
  right := (follows_append.mp h.right).1
  clock ht := by
    obtain ⟨times, h₁, h₂⟩ := h.clock ht
    rw [times_append] at h₁ h₂
    exact ⟨times, (List.prefix_append ..).trans h₁, (List.prefix_append ..).trans h₂⟩

/-- What follows parts that took the same times goes on with one clock. -/
theorem Twin.back (h : Twin f timed (j₁ ++ k₁) (j₂ ++ k₂)) (htimes : timed → j₁.times = j₂.times) :
    Twin f timed k₁ k₂ where
  left := (follows_append.mp h.left).2
  right := (follows_append.mp h.right).2
  clock ht := by
    obtain ⟨times, ⟨rest, hrest⟩, h₂⟩ := h.clock ht
    rw [times_append, List.append_assoc] at hrest
    rw [times_append, ← htimes ht, ← hrest, List.prefix_append_right_inj] at h₂
    exact ⟨_, List.prefix_append .., h₂⟩

end Journal

theorem Program.run_follows {α κ ρ : Type} {kernel : Kernel κ} {f : Replies}
    (h : kernel.Answers f) (reporter : Reporter ρ) (p : Program α) (k : κ) (r : ρ) :
    (p.run kernel reporter k r).journal.Follows f := by
  induction p generalizing k r with
  | pure a => simp [run, Journal.Follows]
  | ask q next ih =>
    refine List.forall_mem_cons.mpr ⟨?_, ih _ _ _⟩
    cases q with
    | supports s => exact h.supports s k
    | call c => exact h.call c k
    | load last => exact h.load last k
    | _ => trivial

/-! ## Agreement -/

/-- Both results are values, and related, or both stop for the same reason. -/
inductive Alike {ε α : Type} (R : α → α → Prop) : Except ε α → Except ε α → Prop
  | ok {a₁ a₂ : α} (related : R a₁ a₂) : Alike R (.ok a₁) (.ok a₂)
  | error (e : ε) : Alike R (.error e) (.error e)

theorem eq_of_alike {ε α : Type} {x y : Except ε α} (h : Alike Eq x y) : x = y := by
  cases h with
  | ok related => rw [related]
  | error e => rfl

theorem alike_self {ε α : Type} (x : Except ε α) : Alike Eq x x := by
  cases x with
  | ok a => exact .ok rfl
  | error e => exact .error e

namespace Staged

open Journal

variable {ε σ α β : Type} {f : Replies} {timed : Prop} {S T : σ → σ → Prop}

/-- From contexts related by `S`, the two programs come to alike results and contexts related by
`T`, and if the runs are timed, they read the same times. -/
def Agree (f : Replies) (timed : Prop) (S T : σ → σ → Prop) (R : α → α → Prop)
    (s₁ s₂ : ExceptT ε (StateT σ Program) α) : Prop :=
  ∀ ⦃c₁ c₂ j₁ j₂ r₁ r₂ c₁' c₂'⦄, S c₁ c₂ → Twin f timed j₁ j₂ → Plays s₁ c₁ j₁ r₁ c₁' →
    Plays s₂ c₂ j₂ r₂ c₂' → Alike R r₁ r₂ ∧ T c₁' c₂' ∧ (timed → j₁.times = j₂.times)

variable {R : α → α → Prop} {Q : β → β → Prop}

theorem agree_pure {a₁ a₂ : α} (h : R a₁ a₂) :
    Agree f timed S S R (pure a₁ : ExceptT ε (StateT σ Program) α) (pure a₂) := by
  intro c₁ c₂ j₁ j₂ r₁ r₂ c₁' c₂' hS _ h₁ h₂
  obtain ⟨rfl, rfl, rfl⟩ := plays_pure.mp h₁
  obtain ⟨rfl, rfl, rfl⟩ := plays_pure.mp h₂
  exact ⟨.ok h, hS, fun _ => rfl⟩

theorem agree_throw (e : ε) :
    Agree f timed S S R (throw e : ExceptT ε (StateT σ Program) α) (throw e) := by
  intro c₁ c₂ j₁ j₂ r₁ r₂ c₁' c₂' hS _ h₁ h₂
  obtain ⟨rfl, rfl, rfl⟩ := plays_throw.mp h₁
  obtain ⟨rfl, rfl, rfl⟩ := plays_throw.mp h₂
  exact ⟨.error e, hS, fun _ => rfl⟩

theorem agree_modify {g : σ → σ} (h : ∀ {c₁ c₂}, S c₁ c₂ → T (g c₁) (g c₂)) :
    Agree f timed S T Eq (modify g : ExceptT ε (StateT σ Program) PUnit) (modify g) := by
  intro c₁ c₂ j₁ j₂ r₁ r₂ c₁' c₂' hS _ h₁ h₂
  obtain ⟨rfl, rfl, rfl⟩ := plays_modify.mp h₁
  obtain ⟨rfl, rfl, rfl⟩ := plays_modify.mp h₂
  exact ⟨.ok rfl, h hS, fun _ => rfl⟩

/-- What agrees after values that may come from the first parts agrees after these. -/
theorem Agree.bind {s₁ s₂ : ExceptT ε (StateT σ Program) α}
    {t₁ t₂ : α → ExceptT ε (StateT σ Program) β} (hs : Agree f timed S T R s₁ s₂)
    (ht : ∀ a₁ a₂, R a₁ a₂ → Agree f timed T T Q (t₁ a₁) (t₂ a₂)) :
    Agree f timed S T Q (s₁ >>= t₁) (s₂ >>= t₂) := by
  intro c₁ c₂ j₁ j₂ r₁ r₂ c₁' c₂' hS htwin h₁ h₂
  obtain ⟨e₁, hs₁, rfl⟩ | ⟨j₁, a₁, d₁, k₁, rfl, hs₁, ht₁⟩ := plays_bind.mp h₁
  · obtain ⟨e₂, hs₂, rfl⟩ | ⟨j₂, a₂, d₂, k₂, rfl, hs₂, ht₂⟩ := plays_bind.mp h₂
    · obtain ⟨⟨⟩, hT, htimes⟩ := hs hS htwin hs₁ hs₂
      exact ⟨.error _, hT, htimes⟩
    · rw [← List.append_nil j₁] at htwin
      obtain ⟨⟨⟩, -⟩ := hs hS htwin.front hs₁ hs₂
  · obtain ⟨e₂, hs₂, rfl⟩ | ⟨j₂, a₂, d₂, k₂, rfl, hs₂, ht₂⟩ := plays_bind.mp h₂
    · rw [← List.append_nil j₂] at htwin
      obtain ⟨⟨⟩, -⟩ := hs hS htwin.front hs₁ hs₂
    · obtain ⟨⟨hR⟩, hT, htimes⟩ := hs hS htwin.front hs₁ hs₂
      obtain ⟨hresult, hT', htimes'⟩ := ht a₁ a₂ hR hT (htwin.back htimes) ht₁ ht₂
      exact ⟨hresult, hT', fun h => by rw [times_append, times_append, htimes h, htimes' h]⟩

theorem agree_throw_bind (e : ε) {t₁ t₂ : α → ExceptT ε (StateT σ Program) β} :
    Agree f timed S S Q (throw e >>= t₁) (throw e >>= t₂) := by
  intro c₁ c₂ j₁ j₂ r₁ r₂ c₁' c₂' hS _ h₁ h₂
  obtain ⟨rfl, rfl, rfl⟩ := plays_throw_bind.mp h₁
  obtain ⟨rfl, rfl, rfl⟩ := plays_throw_bind.mp h₂
  exact ⟨.error e, hS, fun _ => rfl⟩

theorem agree_ite {p : Prop} [Decidable p] {s₁ s₂ t₁ t₂ : ExceptT ε (StateT σ Program) α}
    (hs : p → Agree f timed S T R s₁ s₂) (ht : ¬p → Agree f timed S T R t₁ t₂) :
    Agree f timed S T R (if p then s₁ else t₁) (if p then s₂ else t₂) := by
  split
  next h => exact hs h
  next h => exact ht h

/-- What agrees for all related contexts agrees for those that are looked at. -/
theorem agree_get_bind {t₁ t₂ : σ → ExceptT ε (StateT σ Program) β}
    (h : ∀ c₁ c₂, S c₁ c₂ → Agree f timed S T Q (t₁ c₁) (t₂ c₂)) :
    Agree f timed S T Q (get >>= t₁) (get >>= t₂) := fun _ _ _ _ _ _ _ _ hS htwin h₁ h₂ =>
  h _ _ hS hS htwin (plays_get_bind.mp h₁) (plays_get_bind.mp h₂)

end Staged

namespace Step

open Journal Staged

variable {C α β : Type} {f : Replies} {timed : Prop} {S T : C → C → Prop}

/-- A question agrees if whatever both runs can be answered is alike. -/
theorem agree_ask (q : Request) {R : q.Answer → q.Answer → Prop}
    (h : ∀ a₁ a₂, Twin f timed [⟨q, a₁⟩] [⟨q, a₂⟩] →
      R a₁ a₂ ∧ (timed → times [⟨q, a₁⟩] = times [⟨q, a₂⟩])) :
    Agree f timed S S R (ask q : Step C q.Answer) (ask q) := by
  intro c₁ c₂ j₁ j₂ r₁ r₂ c₁' c₂' hS htwin h₁ h₂
  obtain ⟨a₁, rfl, rfl, rfl⟩ := (plays_ask q).mp h₁
  obtain ⟨a₂, rfl, rfl, rfl⟩ := (plays_ask q).mp h₂
  obtain ⟨hR, htimes⟩ := h a₁ a₂ htwin
  exact ⟨.ok hR, hS, htimes⟩

/-- The clock shows runs with a common clock the same time. -/
theorem agree_clock :
    Agree f timed S S (fun t₁ t₂ => timed → t₁ = t₂) (clock : Step C Instant) clock := by
  refine agree_ask .clock fun t₁ t₂ htwin => ?_
  have heq : timed → t₁ = t₂ := by
    intro ht
    obtain ⟨times, h₁, h₂⟩ := htwin.clock ht
    obtain ⟨rest, rfl⟩ := h₁
    simpa [Journal.times, Entry.time?, eq_comm] using h₂
  exact ⟨heq, fun ht => by rw [heq ht]⟩

theorem agree_load (last : UInt32) :
    Agree f timed S S Eq (load last : Step C UInt32) (load last) := by
  refine agree_ask (.load last) fun w₁ w₂ htwin => ⟨?_, fun _ => rfl⟩
  have h₁ : w₁ = f.load last := htwin.left _ List.mem_cons_self
  have h₂ : w₂ = f.load last := htwin.right _ List.mem_cons_self
  rw [h₁, h₂]

theorem agree_log (event : LogEvent) :
    Agree f timed S S Eq (log event : Step C Unit) (log event) :=
  agree_ask (.log event) fun _ _ _ => ⟨rfl, fun _ => rfl⟩

theorem agree_reply (c : Call) :
    Agree f timed S S Eq (ask (.call c) : Step C (Reply c.Value)) (ask (.call c)) := by
  refine agree_ask (.call c) fun x₁ x₂ htwin => ⟨?_, fun _ => rfl⟩
  have h₁ : x₁ = f.call c := htwin.left _ List.mem_cons_self
  have h₂ : x₂ = f.call c := htwin.right _ List.mem_cons_self
  rw [h₁, h₂]

theorem agree_fail (error : ProbeError) {R : α → α → Prop} :
    Agree f timed S S R (fail error : Step C α) (fail error) := agree_throw _

theorem agree_panic (fault : Fault) {R : α → α → Prop} :
    Agree f timed S S R (panic fault : Step C α) (panic fault) := agree_throw _

theorem agree_ofExcept (x : Except Fault α) :
    Agree f timed S S Eq (ofExcept x : Step C α) (ofExcept x) := by
  cases x with
  | ok a => exact agree_pure rfl
  | error fault => exact agree_panic fault

theorem agree_supports (syscall : Syscall) :
    Agree f timed S S Eq (supports syscall : Step C Bool) (supports syscall) := by
  refine Agree.bind (R := Eq)
    (agree_ask (.supports syscall) fun x₁ x₂ htwin => ⟨?_, fun _ => rfl⟩) ?_
  · have h₁ : x₁ = f.supports syscall := htwin.left _ List.mem_cons_self
    have h₂ : x₂ = f.supports syscall := htwin.right _ List.mem_cons_self
    rw [h₁, h₂]
  · rintro x _ rfl
    exact agree_ofExcept x

/-- A call that is handed a shared word agrees if keeping the word's value keeps the contexts
related. -/
theorem agree_attemptStoring (c : Call) {store : UInt32 → C → C}
    (hstore : ∀ word c₁ c₂, S c₁ c₂ → S (store word c₁) (store word c₂)) :
    Agree f timed S S Eq (attemptStoring c store) (attemptStoring c store) := by
  intro c₁ c₂ j₁ j₂ r₁ r₂ c₁' c₂' hS htwin h₁ h₂
  obtain ⟨reply₁, rfl, rfl, rfl⟩ := (plays_attemptStoring c store).mp h₁
  obtain ⟨reply₂, rfl, rfl, rfl⟩ := (plays_attemptStoring c store).mp h₂
  obtain rfl : reply₁ = f.call c := htwin.left _ List.mem_cons_self
  obtain rfl : reply₂ = f.call c := htwin.right _ List.mem_cons_self
  refine ⟨alike_self _, ?_, fun _ => rfl⟩
  cases (f.call c).stored with
  | none => exact hS
  | some word => exact hstore word _ _ hS

theorem agree_attempt (c : Call) :
    Agree f timed S S Eq (attempt c : Step C (Except SyscallError c.Value)) (attempt c) :=
  agree_attemptStoring c fun _ _ _ hS => hS

theorem agree_call (c : Call) :
    Agree f timed S S Eq (Step.call c : Step C c.Value) (Step.call c) := by
  refine Agree.bind (agree_attempt c) ?_
  rintro (e | a) _ rfl
  · exact agree_fail _
  · exact agree_pure rfl

theorem agree_need (message : String) (c : Call) :
    Agree f timed S S Eq (need message c : Step C c.Value) (need message c) := by
  refine Agree.bind (agree_attempt c) ?_
  rintro (e | a) _ rfl
  · exact agree_fail _
  · exact agree_pure rfl

/-- A step that fails without a system call. -/
theorem agree_unless_supports (syscall : Syscall) (error : ProbeError) :
    Agree f timed S S Eq (do unless ← supports syscall do fail error : Step C Unit)
      (do unless ← supports syscall do fail error) := by
  refine Agree.bind (agree_supports syscall) ?_
  rintro known _ rfl
  cases known with
  | false => exact agree_fail error
  | true => exact agree_pure rfl

end Step

end KernelProbe
