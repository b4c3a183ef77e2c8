import KernelProbe.Proofs.Probe.Course
import KernelProbe.Proofs.Program.Answers

/-!
# What a run of a probe contains

The stages of a probe may do anything to their context, ask anything, stop with any error and give
up with any fault. `Probe.Life` is the part of a run up to the cleanup, played against one kernel
and one reporter: a stage runs only behind stages that came to their end.

`Probe.run_contained` says of every probe, kernel and reporter that a run is a life and one cleanup
from the point where the life ended, that it ends with an outcome and evidence whatever happened,
and which outcome that is.
-/

namespace KernelProbe

variable {C Obs α κ ρ : Type} {kernel : Kernel κ} {reporter : Reporter ρ}

/-! ## Points of a run -/

/-- A point of a run: what the probes of a group share, and the states of the kernel and the
reporter. -/
structure World (C κ ρ : Type) where
  /-- What the probes share. -/
  context : C
  /-- The state of the kernel. -/
  kernel : κ
  /-- The state of the reporter. -/
  reporter : ρ

/-- Played from one point, the step goes through the journal to a result and another point. -/
def Step.Leads (kernel : Kernel κ) (reporter : Reporter ρ) (s : Step C α) (w : World C κ ρ)
    (j : Journal) (x : Except Halt α) (w' : World C κ ρ) : Prop :=
  (s.run.run w.context).run kernel reporter w.kernel w.reporter =
    ⟨(x, w'.context), w'.kernel, w'.reporter, j⟩

theorem Step.leads_of_plays {s : Step C α} {w : World C κ ρ} {j : Journal} {x : Except Halt α}
    {c' : C} {k' : κ} {r' : ρ} (h : s.Plays w.context j x c')
    (ha : j.Answered kernel reporter w.kernel w.reporter k' r') :
    s.Leads kernel reporter w j x ⟨c', k', r'⟩ := Program.run_eq_iff.mpr ⟨h, ha⟩

namespace Probe

/-- A probe's life from one point, up to its cleanup: through a journal to a result, the evidence
noted, and another point. -/
inductive Life (kernel : Kernel κ) (reporter : Reporter ρ) (p : Probe C Obs) (w : World C κ ρ) :
    Journal → Except Halt Unit → Evidence → World C κ ρ → Prop
  /-- The setup halts, and nothing else runs. -/
  | setupHalts {j : Journal} {halt : Halt} {w' : World C κ ρ}
      (setup : p.setup.Leads kernel reporter w j (.error halt) w') :
      Life kernel reporter p w j (.error halt) .empty w'
  /-- The setup comes to its end, and the invocation halts. -/
  | invokeHalts {j₁ j₂ : Journal} {halt : Halt} {w₁ w₂ : World C κ ρ}
      (setup : p.setup.Leads kernel reporter w j₁ (.ok ()) w₁)
      (invoke : p.invoke.Leads kernel reporter w₁ j₂ (.error halt) w₂) :
      Life kernel reporter p w (j₁ ++ j₂) (.error halt) .empty w₂
  /-- Both come to their end, and the check judges what was observed. -/
  | judged {j₁ j₂ : Journal} {observed : Obs} {w₁ w₂ : World C κ ρ} {x : Except Halt Unit}
      {exam : Exam C} (setup : p.setup.Leads kernel reporter w j₁ (.ok ()) w₁)
      (invoke : p.invoke.Leads kernel reporter w₁ j₂ (.ok observed) w₂)
      (check : (p.check observed).eval ⟨w₂.context, .empty⟩ = (x, exam)) :
      Life kernel reporter p w (j₁ ++ j₂) x exam.evidence { w₂ with context := exam.context }

theorem Course.life {p : Probe C Obs} {w : World C κ ρ} {j : Journal} {x : Except Halt Unit}
    {exam : Exam C} {k' : κ} {r' : ρ} (h : p.Course w.context j x exam)
    (ha : j.Answered kernel reporter w.kernel w.reporter k' r') :
    p.Life kernel reporter w j x exam.evidence ⟨exam.context, k', r'⟩ := by
  cases h with
  | setupHalts setup => exact .setupHalts (Step.leads_of_plays setup ha)
  | tested setup test =>
    obtain ⟨k₁, r₁, ha₁, ha₂⟩ := Journal.answered_append.mp ha
    have hsetup := Step.leads_of_plays setup ha₁
    cases test with
    | halts invoke => exact .invokeHalts hsetup (Step.leads_of_plays (w := ⟨_, k₁, r₁⟩) invoke ha₂)
    | judged invoke check =>
      exact .judged hsetup (Step.leads_of_plays (w := ⟨_, k₁, r₁⟩) invoke ha₂) check

/-! ## The outcome -/

/-- What the results of a life and of the cleanup behind it come to. A cleanup has nobody to hand an
error to, so that only a fault keeps it from its end. -/
structure ComesTo (life cleanup : Except Halt Unit) (outcome : Outcome) : Prop where
  /-- The probe passes if nothing stopped it. -/
  pass : outcome = .pass ↔ life = .ok () ∧ ∀ fault, cleanup ≠ .error (.panicked fault)
  /-- It is skipped if a stage found its setup to fail. -/
  skipped : outcome.isSkipped = true ↔
    ∃ message observed, life = .error (.failed (.setup message observed))
  /-- An error of its life is its outcome. -/
  failed : ∀ e, life = .error (.failed e) → outcome = e.outcome
  /-- A fault of its life fails it. -/
  panicked : ∀ fault, life = .error (.panicked fault) →
    outcome = .fail (.of .panicked fault.message none)
  /-- A fault of its cleanup fails it only if nothing else did. -/
  cleanupPanicked : ∀ fault, life = .ok () → cleanup = .error (.panicked fault) →
    outcome = .fail (.of .panicked ("cleanup: " ++ fault.message) none)

theorem comesTo_verdict (life cleanup : Except Halt Unit) :
    ComesTo life cleanup (verdict life cleanup) where
  pass := verdict_eq_pass
  skipped := by
    rcases life with (e | fault) | ⟨⟩
    · cases e <;> simp [verdict, ProbeError.outcome, Outcome.isSkipped]
    · simp [verdict, ProbeError.outcome, Outcome.isSkipped]
    · rcases cleanup with (e | fault) | ⟨⟩ <;>
        simp [verdict, ProbeError.outcome, Outcome.isSkipped]
  failed := by
    rintro e rfl
    rfl
  panicked := by
    rintro fault rfl
    rfl
  cleanupPanicked := by
    rintro fault rfl rfl
    rfl

/-! ## The run -/

theorem onlyLogs_faultLog (scope : String) (x : Except Halt α) :
    (Step.faultLog scope x).OnlyLogs := by
  rcases x with (e | fault) | a
  · exact Journal.onlyLogs_nil
  · exact Journal.onlyLogs_log _
  · exact Journal.onlyLogs_nil

theorem onlyLogs_errorLog (name : String) (x : Except Halt Unit) :
    (errorLog name x).OnlyLogs := by
  rcases x with (e | fault) | ⟨⟩
  · exact Journal.onlyLogs_log _
  · exact Journal.onlyLogs_nil
  · exact Journal.onlyLogs_nil

theorem onlyLogs_cleanupLog (name : String) (x cleanup : Except Halt Unit) :
    (cleanupLog name x cleanup).OnlyLogs := by
  rcases x with _ | ⟨⟩ <;> rcases cleanup with (e | fault) | ⟨⟩
  case ok.error.panicked => exact Journal.onlyLogs_log _
  all_goals exact Journal.onlyLogs_nil

/-- Behind the lifecycle of a probe without a cleanup come log events. -/
theorem plays_run_of_no_cleanup {p : Probe C Obs} (hp : p.cleanup = pure ()) {c c' : C}
    {j : Journal} {o : Outcome} {evidence : Evidence} (h : (p.run c).Plays j ((o, evidence), c')) :
    ∃ own logs life, j = own ++ logs ∧ p.Course c own life ⟨c', evidence⟩ ∧
      o = verdict life (.ok ()) ∧ logs.OnlyLogs := by
  obtain ⟨own, life, exam, j₂, cleanup, hcourse, hclean, rfl, rfl, rfl⟩ := plays_run h
  rw [hp] at hclean
  obtain ⟨rfl, rfl, rfl⟩ := Staged.plays_pure.mp hclean
  have hfine : Step.faultLog p.spec.name (.ok () : Except Halt Unit) = [] := rfl
  refine ⟨own, Step.faultLog p.spec.name life ++ errorLog p.spec.name life ++
    cleanupLog p.spec.name life (.ok ()), life, ?_, hcourse, rfl, ?_⟩
  · simp only [hfine, List.append_nil, List.append_assoc]
  · exact ((onlyLogs_faultLog _ _).append (onlyLogs_errorLog _ _)).append
      (onlyLogs_cleanupLog _ _ _)

/-- Whatever the stages of a probe do, and whatever kernel and reporter it meets, a run of it ends
with an outcome and evidence. It is the probe's life and one cleanup from the point where the life
ended, with nothing but log events between and behind; the evidence is what the check noted, and the
outcome what the two come to. -/
theorem run_contained (p : Probe C Obs) (kernel : Kernel κ) (reporter : Reporter ρ)
    (w : World C κ ρ) :
    ∃ (life cleanup : Except Halt Unit) (outcome : Outcome) (evidence : Evidence)
      (w₁ w₂ : World C κ ρ) (j₁ logs₁ j₂ logs₂ : Journal),
      (p.run w.context).run kernel reporter w.kernel w.reporter =
        ⟨((outcome, evidence), w₂.context), w₂.kernel, w₂.reporter,
          j₁ ++ logs₁ ++ (j₂ ++ logs₂)⟩ ∧
      p.Life kernel reporter w j₁ life evidence w₁ ∧
      p.cleanup.Leads kernel reporter w₁ j₂ cleanup w₂ ∧
      logs₁.OnlyLogs ∧ logs₂.OnlyLogs ∧ ComesTo life cleanup outcome := by
  obtain ⟨⟨⟨⟨outcome, evidence⟩, c'⟩, k', r', j⟩, hrun⟩ :
      ∃ e, (p.run w.context).run kernel reporter w.kernel w.reporter = e := ⟨_, rfl⟩
  obtain ⟨hplays, hanswered⟩ := Program.run_eq_iff.mp hrun
  obtain ⟨j₁, life, exam, j₂, cleanup, hcourse, hclean, rfl, rfl, rfl⟩ := plays_run hplays
  -- what follows the cleanup are log events, which belong together
  have hlogs₁ := onlyLogs_faultLog p.spec.name life
  have hlogs₂ := ((onlyLogs_faultLog p.spec.name cleanup).append
    (onlyLogs_errorLog p.spec.name life)).append (onlyLogs_cleanupLog p.spec.name life cleanup)
  simp only [List.append_assoc] at hanswered hrun hlogs₂
  -- the answers divide as the journal does, and log events change no state
  obtain ⟨k₁, r₁, hlife, hbehind⟩ := Journal.answered_append.mp hanswered
  obtain ⟨_, _, hlog₁, hrest⟩ := Journal.answered_append.mp hbehind
  obtain ⟨rfl, rfl⟩ := hlogs₁.answered hlog₁
  obtain ⟨k₂, r₂, hcleanup, hlog₂⟩ := Journal.answered_append.mp hrest
  obtain ⟨rfl, rfl⟩ := hlogs₂.answered hlog₂
  refine ⟨life, cleanup, _, exam.evidence, ⟨exam.context, _, _⟩, ⟨c', _, _⟩, j₁, _, j₂, _, ?_,
    hcourse.life hlife, Step.leads_of_plays (w := ⟨_, _, _⟩) hclean hcleanup, hlogs₁, hlogs₂,
    comesTo_verdict life cleanup⟩
  simpa only [List.append_assoc] using hrun

end Probe

end KernelProbe
