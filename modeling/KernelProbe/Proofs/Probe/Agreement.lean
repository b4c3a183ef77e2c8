import KernelProbe.Proofs.Probe.Course
import KernelProbe.Proofs.Program.Agreement

/-!
# Two runs of a probe beside each other

`Trial.Agrees f timed S T t` says of a probe that from contexts related by `S`, and against the same
kernel, it comes to the same outcome and to the same evidence up to elapsed times, and leaves
contexts related by `T`. `Probe.trial_agrees` puts this together from what the stages of the probe
do, `Judge.Agree` says it of a judgement. `Trial.Frames f S t` says that running the probe in one of
the two runs alone keeps the contexts related.
-/

namespace KernelProbe

open Journal Staged

/-! ## Evidence up to elapsed times -/

/-- The name under which an elapsed time is noted. -/
def elapsedKey : String := "elapsed_us"

/-- The evidence with the elapsed times left blank. -/
def Evidence.untimed (e : Evidence) : Evidence :=
  ⟨e.entries.map fun entry => if entry.1 = elapsedKey then (entry.1, "") else entry⟩

theorem Evidence.untimed_push (e : Evidence) (key value : String) :
    (e.push key value).untimed = e.untimed.push key (if key = elapsedKey then "" else value) := by
  by_cases hkey : key = elapsedKey <;> simp [untimed, push, hkey]

/-- The contexts are related, and the evidence differs in elapsed times at most. -/
structure Exam.Like {C : Type} (S : C → C → Prop) (exam₁ exam₂ : Exam C) : Prop where
  context : S exam₁.context exam₂.context
  evidence : exam₁.evidence.untimed = exam₂.evidence.untimed

variable {C Obs α β : Type} {f : Replies} {timed : Prop} {S S' T T' : C → C → Prop}

/-! ## Judgements -/

namespace Judge

/-- From like exams, the two judgements come to the same result and to like exams. -/
def Agree (S : C → C → Prop) (judge₁ judge₂ : Judge C α) : Prop :=
  ∀ ⦃exam₁ exam₂⦄, Exam.Like S exam₁ exam₂ →
    (judge₁.eval exam₁).1 = (judge₂.eval exam₂).1 ∧
      Exam.Like S (judge₁.eval exam₁).2 (judge₂.eval exam₂).2

theorem agree_pure (a : α) : Agree S (pure a) (pure a) := fun _ _ hlike => ⟨rfl, hlike⟩

theorem agree_throw (e : Halt) : Agree S (throw e : Judge C α) (throw e) :=
  fun _ _ hlike => ⟨rfl, hlike⟩

theorem Agree.bind {judge₁ judge₂ : Judge C α} {f₁ f₂ : α → Judge C β}
    (h : Agree S judge₁ judge₂) (hf : ∀ a, Agree S (f₁ a) (f₂ a)) :
    Agree S (judge₁ >>= f₁) (judge₂ >>= f₂) := by
  intro exam₁ exam₂ hlike
  have hfirst := h hlike
  rw [eval_bind, eval_bind]
  revert hfirst
  rcases judge₁.eval exam₁ with ⟨r₁, exam₁'⟩
  rcases judge₂.eval exam₂ with ⟨r₂, exam₂'⟩
  rintro ⟨rfl : r₁ = r₂, hlike'⟩
  cases r₁ with
  | error e => exact ⟨rfl, hlike'⟩
  | ok a => exact hf a hlike'

theorem agree_ite {p : Prop} [Decidable p] {judge₁ judge₂ other₁ other₂ : Judge C α}
    (h : Agree S judge₁ judge₂) (hother : Agree S other₁ other₂) :
    Agree S (if p then judge₁ else other₁) (if p then judge₂ else other₂) := by
  split
  · exact h
  · exact hother

theorem agree_throw_bind (e : Halt) {f₁ f₂ : β → Judge C α} :
    Agree S (throw e >>= f₁) (throw e >>= f₂) := fun _ _ hlike => ⟨rfl, hlike⟩

theorem agree_throw_if {p : Prop} [Decidable p] (e : Halt) :
    Agree S (if p then throw e else pure () : Judge C Unit) (if p then throw e else pure ()) :=
  agree_ite (agree_throw e) (agree_pure ())

/-- What follows a guard agrees if it does so behind the guard. -/
theorem agree_guard {p : Prop} [Decidable p] (e : Halt) {f₁ f₂ : β → Judge C α}
    {other₁ other₂ : Judge C α} (h : Agree S other₁ other₂) :
    Agree S (if p then throw e >>= f₁ else other₁) (if p then throw e >>= f₂ else other₂) :=
  agree_ite (agree_throw_bind e) h

theorem agree_ofExcept (x : Except Fault α) :
    Agree S (ofExcept x : Judge C α) (ofExcept x) := by
  cases x with
  | ok a => exact agree_pure a
  | error fault => exact agree_throw _

theorem agree_note (key value : String) : Agree S (note key value) (note key value) := by
  rintro exam₁ exam₂ ⟨hcontext, hevidence⟩
  refine ⟨rfl, hcontext, ?_⟩
  simp only [eval_note, Evidence.untimed_push, hevidence]

theorem agree_noteNat (key : String) (n : Nat) : Agree S (noteNat key n) (noteNat key n) :=
  agree_note key _

theorem agree_noteInt (key : String) (i : Int) : Agree S (noteInt key i) (noteInt key i) :=
  agree_note key _

/-- Elapsed times may differ. -/
theorem agree_elapsed (n₁ n₂ : Nat) : Agree S (noteNat elapsedKey n₁) (noteNat elapsedKey n₂) := by
  rintro exam₁ exam₂ ⟨hcontext, hevidence⟩
  refine ⟨rfl, hcontext, ?_⟩
  simp only [eval_noteNat, Evidence.untimed_push, hevidence, if_true]

theorem agree_update {g : C → C} (hg : ∀ c₁ c₂, S c₁ c₂ → S (g c₁) (g c₂)) :
    Agree S (update g) (update g) := fun _ _ hlike =>
  ⟨rfl, hg _ _ hlike.context, hlike.evidence⟩

theorem agree_context_bind {f₁ f₂ : C → Judge C α}
    (h : ∀ c₁ c₂, S c₁ c₂ → Agree S (f₁ c₁) (f₂ c₂)) :
    Agree S (context >>= f₁) (context >>= f₂) := by
  intro exam₁ exam₂ hlike
  rw [eval_bind, eval_bind, eval_context, eval_context]
  exact h _ _ hlike.context hlike

theorem agree_forM {A : Type} {xs : List A} {g : A → Judge C PUnit}
    (h : ∀ x ∈ xs, Agree S (g x) (g x)) : Agree S (xs.forM g) (xs.forM g) := by
  induction xs with
  | nil => exact agree_pure _
  | cons x xs ih =>
    exact (h x List.mem_cons_self).bind fun _ => ih fun y hy => h y (List.mem_cons_of_mem x hy)

end Judge

/-! ## Probes -/

/-- From contexts related by `S`, the probe comes to the same outcome, and to the same evidence up
to elapsed times, in both runs, and leaves contexts related by `T`. -/
def Trial.Agrees (f : Replies) (timed : Prop) (S T : C → C → Prop) (t : Trial C) : Prop :=
  ∀ ⦃c₁ c₂ j₁ j₂ o₁ o₂ e₁ e₂ c₁' c₂'⦄, S c₁ c₂ → Twin f timed j₁ j₂ →
    (t.run c₁).Plays j₁ ((o₁, e₁), c₁') → (t.run c₂).Plays j₂ ((o₂, e₂), c₂') →
      o₁ = o₂ ∧ e₁.untimed = e₂.untimed ∧ T c₁' c₂'

/-- Contexts that are related stay so if the probe runs over the first alone. -/
def Trial.Frames (f : Replies) (S : C → C → Prop) (t : Trial C) : Prop :=
  ∀ ⦃c j o e c' d⦄, j.Follows f → (t.run c).Plays j ((o, e), c') → S c d → S c' d

theorem Trial.Agrees.mono {t : Trial C} (h : t.Agrees f timed S T)
    (hS : ∀ c₁ c₂, S' c₁ c₂ → S c₁ c₂) (hT : ∀ c₁ c₂, T c₁ c₂ → T' c₁ c₂) :
    t.Agrees f timed S' T' := by
  intro c₁ c₂ j₁ j₂ o₁ o₂ e₁ e₂ c₁' c₂' hstart htwin h₁ h₂
  obtain ⟨ho, he, hend⟩ := h (hS _ _ hstart) htwin h₁ h₂
  exact ⟨ho, he, hT _ _ hend⟩

theorem Trial.frames_true {t : Trial C} : t.Frames f fun _ _ => True :=
  fun _ _ _ _ _ _ _ _ _ => trivial

namespace Probe

variable {R : α → α → Prop}

theorem agree_onContext {s₁ s₂ : Step C α} (h : Agree f timed S T R s₁ s₂) :
    Agree f timed (Exam.Like S) (Exam.Like T) R (onContext s₁) (onContext s₂) := by
  rintro exam₁ exam₂ j₁ j₂ r₁ r₂ _ _ ⟨hS, hevidence⟩ htwin h₁ h₂
  obtain ⟨c₁', hs₁, rfl⟩ := plays_onContext.mp h₁
  obtain ⟨c₂', hs₂, rfl⟩ := plays_onContext.mp h₂
  obtain ⟨hresult, hT, htimes⟩ := h hS htwin hs₁ hs₂
  exact ⟨hresult, ⟨hT, hevidence⟩, htimes⟩

theorem agree_judged {judge₁ judge₂ : Judge C α} (h : Judge.Agree S judge₁ judge₂) :
    Agree f timed (Exam.Like S) (Exam.Like S) Eq (judged judge₁) (judged judge₂) := by
  intro exam₁ exam₂ j₁ j₂ r₁ r₂ exam₁' exam₂' hlike _ h₁ h₂
  obtain ⟨rfl, heval₁⟩ := plays_judged.mp h₁
  obtain ⟨rfl, heval₂⟩ := plays_judged.mp h₂
  obtain ⟨hresult, hlike'⟩ := h hlike
  rw [heval₁, heval₂] at hresult hlike'
  obtain rfl : r₁ = r₂ := hresult
  exact ⟨alike_self r₁, hlike', fun _ => rfl⟩

/-- Every course of a probe is one of its lifecycle. -/
theorem Course.plays {p : Probe C Obs} {c : C} {j : Journal} {r : Except Halt Unit} {exam : Exam C}
    (h : p.Course c j r exam) : p.lifecycle.Plays ⟨c, .empty⟩ j r exam := by
  simp only [lifecycle, Step.Plays, Staged.plays_bind, plays_onContext, plays_judged]
  cases h with
  | setupHalts setup => exact .inl ⟨_, ⟨_, setup, rfl⟩, rfl⟩
  | tested setup test =>
    refine .inr ⟨_, (), _, _, rfl, ⟨_, setup, rfl⟩, ?_⟩
    cases test with
    | halts invoke => exact .inl ⟨_, ⟨_, invoke, rfl⟩, rfl⟩
    | judged invoke check =>
      exact .inr ⟨_, _, _, [], (List.append_nil _).symm, ⟨_, invoke, rfl⟩, rfl, check⟩

/-- A probe agrees if its stages do; the check may be of observations that differ. -/
theorem trial_agrees {p : Probe C Obs} {R : Obs → Obs → Prop}
    (hsetup : Agree f timed S T Eq p.setup p.setup)
    (hinvoke : Agree f timed T T R p.invoke p.invoke)
    (hcheck : ∀ o₁ o₂, R o₁ o₂ → Judge.Agree T (p.check o₁) (p.check o₂))
    (hcleanup : Agree f timed T T Eq p.cleanup p.cleanup) : p.trial.Agrees f timed S T := by
  have hlifecycle : Agree f timed (Exam.Like S) (Exam.Like T) Eq p.lifecycle p.lifecycle :=
    (agree_onContext hsetup).bind fun _ _ _ => (agree_onContext hinvoke).bind fun o₁ o₂ hR =>
      agree_judged (hcheck o₁ o₂ hR)
  intro c₁ c₂ j₁ j₂ o₁ o₂ e₁ e₂ c₁' c₂' hS htwin h₁ h₂
  obtain ⟨own₁, r₁, exam₁, clean₁, s₁, hcourse₁, hclean₁, rfl, rfl, rfl⟩ := plays_run h₁
  obtain ⟨own₂, r₂, exam₂, clean₂, s₂, hcourse₂, hclean₂, rfl, rfl, rfl⟩ := plays_run h₂
  -- the log entries apart, each run is a course of the lifecycle and one of the cleanup
  have hlike : Exam.Like S ⟨c₁, .empty⟩ ⟨c₂, .empty⟩ := ⟨hS, rfl⟩
  obtain ⟨hresult, ⟨hcontext, hevidence⟩, htimes⟩ :=
    hlifecycle hlike htwin.front.front.front.front hcourse₁.plays hcourse₂.plays
  obtain rfl : r₁ = r₂ := eq_of_alike hresult
  have htwin₂ := htwin.front.front.back fun ht => by rw [times_append, times_append, htimes ht]
  obtain ⟨hresult', hT, -⟩ := hcleanup hcontext htwin₂.front hclean₁ hclean₂
  obtain rfl : s₁ = s₂ := eq_of_alike hresult'
  exact ⟨rfl, hevidence, hT⟩

/-- Without setup and cleanup, a probe agrees if its invocation and its check do. -/
theorem trial_agrees_of_invoke {p : Probe C Obs} (hsetup : p.setup = pure ())
    (hcleanup : p.cleanup = pure ()) (hinvoke : Agree f timed S S Eq p.invoke p.invoke)
    (hcheck : ∀ o, Judge.Agree S (p.check o) (p.check o)) : p.trial.Agrees f timed S S := by
  refine trial_agrees ?_ hinvoke ?_ ?_
  · rw [hsetup]
    exact agree_pure rfl
  · rintro o _ rfl
    exact hcheck o
  · rw [hcleanup]
    exact agree_pure rfl

/-- Without a cleanup, a probe frames what its course does. -/
theorem trial_frames {p : Probe C Obs} (hp : p.cleanup = pure ())
    (h : ∀ {c j r exam d}, j.Follows f → p.Course c j r exam → S c d → S exam.context d) :
    p.trial.Frames f S := by
  intro c j o e c' d hfollows hplays hS
  obtain ⟨own, r, exam, clean, s, hcourse, hclean, -, -, rfl⟩ := plays_run hplays
  rw [hp] at hclean
  obtain ⟨-, -, rfl⟩ := plays_pure.mp hclean
  simp only [follows_append] at hfollows
  exact h hfollows.1.1.1.1 hcourse hS

end Probe

end KernelProbe
