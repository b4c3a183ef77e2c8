import KernelProbe.Proofs.Probe.Course

/-!
# What a step leaves alone

`Staged.Preserves f s` says that `s` leaves the feature `f` of its state as it was, whatever it goes
through and however it ends. A sequence preserves what its parts preserve, and a question changes no
state at all; a call that stores a word preserves what the store does. The course of a probe
preserves what its stages do (`Probe.Course.preserves`).
-/

namespace KernelProbe

namespace Staged

variable {ε σ α β : Type} {X : Type*} {f : σ → X}

/-- The program leaves a feature of its state as it was. -/
def Preserves (f : σ → X) (s : ExceptT ε (StateT σ Program) α) : Prop :=
  ∀ c j r c', Plays s c j r c' → f c' = f c

theorem preserves_pure (a : α) : Preserves f (pure a : ExceptT ε (StateT σ Program) α) := by
  intro c j r c' h
  obtain ⟨-, -, rfl⟩ := plays_pure.mp h
  rfl

theorem preserves_throw (e : ε) : Preserves f (throw e : ExceptT ε (StateT σ Program) α) := by
  intro c j r c' h
  obtain ⟨-, -, rfl⟩ := plays_throw.mp h
  rfl

theorem preserves_modify {g : σ → σ} (hg : ∀ c, f (g c) = f c) :
    Preserves f (modify g : ExceptT ε (StateT σ Program) PUnit) := by
  intro c j r c' h
  obtain ⟨-, -, rfl⟩ := plays_modify.mp h
  exact hg c

theorem preserves_lift (p : Program α) :
    Preserves f (liftM p : ExceptT ε (StateT σ Program) α) := by
  intro c j r c' h
  obtain ⟨_, -, -, rfl⟩ := plays_lift.mp h
  rfl

theorem Preserves.bind {s : ExceptT ε (StateT σ Program) α}
    {t : α → ExceptT ε (StateT σ Program) β} (hs : Preserves f s) (ht : ∀ a, Preserves f (t a)) :
    Preserves f (s >>= t) := by
  intro c j r c' h
  obtain ⟨e, h₁, -⟩ | ⟨j₁, a, c₁, j₂, -, h₁, h₂⟩ := plays_bind.mp h
  · exact hs _ _ _ _ h₁
  · exact (ht a _ _ _ _ h₂).trans (hs _ _ _ _ h₁)

/-- What a program does with the state that it looks at, it does with one state. -/
theorem preserves_get_bind {t : σ → ExceptT ε (StateT σ Program) β} (ht : ∀ c, Preserves f (t c)) :
    Preserves f (get >>= t) := fun c j r c' h => ht c c j r c' (plays_get_bind.mp h)

end Staged

namespace Step

open Staged

variable {C α : Type} {X : Type*} {f : C → X}

theorem preserves_ask (q : Request) : Preserves f (ask q : Step C q.Answer) := preserves_lift _

theorem preserves_clock : Preserves f (clock : Step C Instant) := preserves_ask .clock

theorem preserves_load (last : UInt32) : Preserves f (load last : Step C UInt32) :=
  preserves_ask (.load last)

theorem preserves_log (event : LogEvent) : Preserves f (log event : Step C Unit) :=
  preserves_ask (.log event)

theorem preserves_attemptStoring (call : Call) {store : UInt32 → C → C}
    (hstore : ∀ word c, f (store word c) = f c) : Preserves f (attemptStoring call store) := by
  intro c j r c' h
  obtain ⟨reply, -, -, rfl⟩ := (plays_attemptStoring call store).mp h
  cases reply.stored with
  | none => rfl
  | some word => exact hstore word c

theorem preserves_call (call : Call) : Preserves f (Step.call call : Step C call.Value) := by
  intro c j r c' h
  obtain ⟨_, -, -, rfl⟩ := (plays_call call).mp h
  rfl

end Step

/-- What all stages of a probe leave alone, its course leaves alone. -/
theorem Probe.Course.preserves {C Obs : Type} {X : Type*} {f : C → X} {p : Probe C Obs} {c : C}
    {j : Journal} {r : Except Halt Unit} {exam : Exam C} (hsetup : Staged.Preserves f p.setup)
    (hinvoke : Staged.Preserves f p.invoke)
    (hcheck : ∀ observed c r exam, (p.check observed).eval ⟨c, .empty⟩ = (r, exam) →
      f exam.context = f c)
    (h : p.Course c j r exam) : f exam.context = f c := by
  cases h with
  | setupHalts setup => exact hsetup _ _ _ _ setup
  | tested setup test =>
    have hstart := hsetup _ _ _ _ setup
    cases test with
    | halts invoke => exact (hinvoke _ _ _ _ invoke).trans hstart
    | judged invoke check =>
      calc f exam.context = f _ := hcheck _ _ _ _ check
        _ = f _ := hinvoke _ _ _ _ invoke
        _ = f c := hstart

end KernelProbe
