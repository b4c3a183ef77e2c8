import KernelProbe.Probe.Basic
import KernelProbe.Proofs.Program.Steps

/-!
# The course of a probe

A probe's lifecycle halts in its setup, halts in its invocation, or comes to its check
(`Probe.Course`). `Probe.plays_run` says that a run of a probe is a course of its lifecycle, a
course of its cleanup from the context that the lifecycle left, and log entries between and behind
them; the outcome is the `Probe.verdict` on the two. A probe passes if and only if its lifecycle
comes to its end and its cleanup raises no fault.
-/

namespace KernelProbe

/-! ## Judgements -/

namespace Judge

variable {C α β : Type}

/-- The result of a judgement and the exam after it. -/
def eval (judge : Judge C α) (exam : Exam C) : Except Halt α × Exam C := judge.run.run exam

@[simp] theorem eval_pure (a : α) (exam : Exam C) : eval (pure a) exam = (.ok a, exam) := rfl

@[simp] theorem eval_bind (judge : Judge C α) (f : α → Judge C β) (exam : Exam C) :
    eval (judge >>= f) exam = match eval judge exam with
      | (.ok a, exam) => eval (f a) exam
      | (.error h, exam) => (.error h, exam) := by
  rw [eval, eval, ExceptT.run_bind, StateT.run_bind]
  rcases judge.run.run exam with ⟨_ | _, _⟩ <;> rfl

@[simp] theorem eval_ite (p : Prop) [Decidable p] (judge₁ judge₂ : Judge C α) (exam : Exam C) :
    eval (if p then judge₁ else judge₂) exam = if p then eval judge₁ exam else eval judge₂ exam :=
  apply_ite (eval · exam) p judge₁ judge₂

@[simp] theorem eval_fail (error : ProbeError) (exam : Exam C) :
    eval (fail error : Judge C α) exam = (.error (.failed error), exam) := rfl

@[simp] theorem eval_refute (message : String) (observed : Option RawReturn) (exam : Exam C) :
    eval (refute message observed : Judge C α) exam
      = (.error (.failed (.assertion message observed)), exam) := rfl

@[simp] theorem eval_panic (fault : Fault) (exam : Exam C) :
    eval (panic fault : Judge C α) exam = (.error (.panicked fault), exam) := rfl

@[simp] theorem eval_note (key value : String) (exam : Exam C) :
    eval (note key value) exam = (.ok (), { exam with evidence := exam.evidence.push key value }) :=
  rfl

@[simp] theorem eval_noteNat (key : String) (n : Nat) (exam : Exam C) :
    eval (noteNat key n) exam
      = (.ok (), { exam with evidence := exam.evidence.push key (Text.decimal n) }) := rfl

@[simp] theorem eval_noteInt (key : String) (i : Int) (exam : Exam C) :
    eval (noteInt key i) exam
      = (.ok (), { exam with evidence := exam.evidence.push key (Text.integer i) }) := rfl

@[simp] theorem eval_context (exam : Exam C) : eval context exam = (.ok exam.context, exam) := rfl

@[simp] theorem eval_update (f : C → C) (exam : Exam C) :
    eval (update f) exam = (.ok (), { exam with context := f exam.context }) := rfl

@[simp] theorem eval_ofExcept_ok (a : α) (exam : Exam C) :
    eval (ofExcept (.ok a)) exam = (.ok a, exam) := rfl

end Judge

/-! ## The lifecycle -/

namespace Probe

variable {C Obs α : Type}

@[simp] theorem plays_onContext {s : Step C α} {exam exam' : Exam C} {j : Journal}
    {r : Except Halt α} :
    (onContext s).Plays exam j r exam' ↔
      ∃ c', s.Plays exam.context j r c' ∧ exam' = { exam with context := c' } := by
  show Program.Plays (s.run.run exam.context >>= fun p =>
    pure (p.1, { exam with context := p.2 })) j (r, exam') ↔ _
  rw [Program.plays_bind]
  constructor
  · rintro ⟨j₁, ⟨r, c'⟩, _, rfl, h₁, rfl, heq⟩
    cases heq
    exact ⟨c', by rwa [List.append_nil], rfl⟩
  · rintro ⟨c', h, rfl⟩
    exact ⟨j, (r, c'), [], by simp, h, rfl, rfl⟩

@[simp] theorem plays_judged {judge : Judge C α} {exam exam' : Exam C} {j : Journal}
    {r : Except Halt α} :
    (judged judge).Plays exam j r exam' ↔ j = [] ∧ judge.eval exam = (r, exam') := by
  show Program.Plays (pure (judge.run.run exam)) j (r, exam') ↔ _
  rw [Program.plays_pure]
  exact and_congr_right fun _ => eq_comm

/-- The courses of a probe's invocation and check from a context to a result and an exam. -/
inductive Test (p : Probe C Obs) (c : C) : Journal → Except Halt Unit → Exam C → Prop
  /-- The invocation halts. -/
  | halts {j h c'} (invoke : p.invoke.Plays c j (.error h) c') : Test p c j (.error h) ⟨c', .empty⟩
  /-- The observation is judged. -/
  | judged {j observed c' r exam} (invoke : p.invoke.Plays c j (.ok observed) c')
      (check : (p.check observed).eval ⟨c', .empty⟩ = (r, exam)) : Test p c j r exam

/-- The courses of a probe's lifecycle from a context to a result and an exam. -/
inductive Course (p : Probe C Obs) (c : C) : Journal → Except Halt Unit → Exam C → Prop
  /-- The setup halts. -/
  | setupHalts {j h c'} (setup : p.setup.Plays c j (.error h) c') :
      Course p c j (.error h) ⟨c', .empty⟩
  /-- The setup comes to its end, and the test follows. -/
  | tested {j₁ c₁ j₂ r exam} (setup : p.setup.Plays c j₁ (.ok ()) c₁) (test : p.Test c₁ j₂ r exam) :
      Course p c (j₁ ++ j₂) r exam

theorem plays_lifecycle {p : Probe C Obs} {c : C} {j : Journal} {r : Except Halt Unit}
    {exam : Exam C} (h : p.lifecycle.Plays ⟨c, .empty⟩ j r exam) : p.Course c j r exam := by
  simp only [lifecycle, Step.Plays, Staged.plays_bind, plays_onContext, plays_judged] at h
  rcases h with ⟨halt, ⟨c₁, hsetup, rfl⟩, rfl⟩ | ⟨j₁, _, _, _, rfl, ⟨c₁, hsetup, rfl⟩, h⟩
  · exact .setupHalts hsetup
  rcases h with ⟨halt, ⟨c₂, hinvoke, rfl⟩, rfl⟩ |
    ⟨j₂, observed, _, _, rfl, ⟨c₂, hinvoke, rfl⟩, rfl, hcheck⟩
  · exact .tested hsetup (.halts hinvoke)
  · rw [List.append_nil]
    exact .tested hsetup (.judged hinvoke hcheck)

/-- A probe without a setup goes through its test alone. -/
theorem Course.test {p : Probe C Obs} (hp : p.setup = pure ()) {c : C} {j : Journal}
    {r : Except Halt Unit} {exam : Exam C} (h : p.Course c j r exam) : p.Test c j r exam := by
  cases h with
  | setupHalts setup =>
    rw [hp] at setup
    obtain ⟨_, heq, _⟩ := Staged.plays_pure.mp setup
    cases heq
  | tested setup test =>
    rw [hp] at setup
    obtain ⟨rfl, -, rfl⟩ := Staged.plays_pure.mp setup
    exact test

/-- A test that is no more than a call makes the call, and judges the value if it gives one. -/
theorem Test.of_call (call : Call) {p : Probe C call.Value} (hp : p.invoke = Step.call call) {c : C}
    {j : Journal} {r : Except Halt Unit} {exam : Exam C} (h : p.Test c j r exam) :
    ∃ reply, j = [⟨.call call, reply⟩] ∧
      ((∃ v, reply.returned = .value v ∧ (p.check v).eval ⟨c, .empty⟩ = (r, exam)) ∨
        (∀ v, reply.returned ≠ .value v) ∧ r ≠ .ok () ∧ exam = ⟨c, .empty⟩) := by
  cases h with
  | halts invoke =>
    rw [hp, Step.plays_call] at invoke
    obtain ⟨reply, rfl, heq, rfl⟩ := invoke
    exact ⟨reply, rfl, .inr ⟨Returned.ne_value_of_orHalt heq.symm, by simp, rfl⟩⟩
  | judged invoke check =>
    rw [hp, Step.plays_call] at invoke
    obtain ⟨reply, rfl, heq, rfl⟩ := invoke
    exact ⟨reply, rfl, .inl ⟨_, Returned.orHalt_eq_ok.mp heq.symm, check⟩⟩

/-! ## The outcome -/

/-- The outcome for the results of the lifecycle and of the cleanup. -/
def verdict : Except Halt Unit → Except Halt Unit → Outcome
  | .ok (), .error (.panicked fault) => (ProbeError.panicked ("cleanup: " ++ fault.message)).outcome
  | .ok (), _ => .pass
  | .error (.failed e), _ => e.outcome
  | .error (.panicked fault), _ => (ProbeError.panicked fault.message).outcome

theorem outcome_ne_pass (e : ProbeError) : e.outcome ≠ .pass := by
  cases e <;> simp [ProbeError.outcome]

/-- A probe passes if and only if its lifecycle comes to its end and its cleanup raises no fault. -/
theorem verdict_eq_pass {lifecycle cleanup : Except Halt Unit} :
    verdict lifecycle cleanup = .pass ↔
      lifecycle = .ok () ∧ ∀ fault, cleanup ≠ .error (.panicked fault) := by
  rcases lifecycle with (e | fault) | ⟨⟩ <;> rcases cleanup with (e' | fault') | ⟨⟩ <;>
    simp [verdict, outcome_ne_pass]

/-- The log entry for an error that stopped the lifecycle. -/
def errorLog (name : String) : Except Halt Unit → Journal
  | .error (.failed e) =>
    [⟨.log
      { level := .debug, target := logTarget, message := "Probe did not pass",
        fields := [("probe", .text name), ("error", .text e.message)] }, ()⟩]
  | _ => []

/-- The log entry for a cleanup that fails a probe that passed. -/
def cleanupLog (name : String) : Except Halt Unit → Except Halt Unit → Journal
  | .ok (), .error (.panicked _) =>
    [⟨.log
      { level := .warn, target := logTarget, message := "Cleanup panicked after a passing probe",
        fields := [("probe", .text name)] }, ()⟩]
  | _, _ => []

theorem plays_settle (name : String) (r : Except Halt Unit) (j : Journal) (o : Outcome) :
    (settle name (Step.caught r)).Plays j o ↔ j = errorLog name r ∧ o = verdict r (.ok ()) := by
  rcases r with (e | fault) | ⟨⟩
  · simp only [settle, Step.caught, Program.plays_bind, Program.plays_log, Program.plays_pure]
    constructor
    · rintro ⟨_, _, _, rfl, rfl, rfl, rfl⟩
      exact ⟨rfl, rfl⟩
    · rintro ⟨rfl, rfl⟩
      exact ⟨_, (), [], rfl, rfl, rfl, rfl⟩
  · exact Iff.rfl
  · exact Iff.rfl

/-- A run of a probe is a course of its lifecycle and one of its cleanup, with log entries. -/
theorem plays_run {p : Probe C Obs} {c c' : C} {j : Journal} {o : Outcome} {evidence : Evidence}
    (h : (p.run c).Plays j ((o, evidence), c')) :
    ∃ j₁ lifecycle exam j₂ cleanup, p.Course c j₁ lifecycle exam ∧
      p.cleanup.Plays exam.context j₂ cleanup c' ∧
      o = verdict lifecycle cleanup ∧ evidence = exam.evidence ∧
      j = j₁ ++ Step.faultLog p.spec.name lifecycle ++ (j₂ ++ Step.faultLog p.spec.name cleanup)
        ++ errorLog p.spec.name lifecycle ++ cleanupLog p.spec.name lifecycle cleanup := by
  simp only [run, Program.plays_bind] at h
  obtain ⟨_, ⟨_, exam⟩, _, rfl, h₁, _, ⟨_, c''⟩, _, rfl, h₂, _, _, _, rfl, h₃, h⟩ := h
  -- both stages stand behind a boundary, so that each has a result and a context
  obtain ⟨lifecycle, j₁, hlife, rfl, rfl⟩ := Step.plays_guarded.mp h₁
  obtain ⟨cleanup, j₂, hclean, rfl, rfl⟩ := Step.plays_guarded.mp h₂
  obtain ⟨rfl, rfl⟩ := (plays_settle ..).mp h₃
  split at h
  next hpass hcaught =>
    -- the one path on which the cleanup decides: the lifecycle passed and the cleanup gave up
    obtain ⟨rfl, -⟩ := verdict_eq_pass.mp hpass
    rcases cleanup with (e | fault) | ⟨⟩
    · cases hcaught
    · cases hcaught
      simp only [Program.plays_bind, Program.plays_log, Program.plays_pure] at h
      obtain ⟨_, _, _, rfl, rfl, rfl, heq⟩ := h
      cases heq
      exact ⟨j₁, .ok (), exam, j₂, _, plays_lifecycle hlife, hclean, rfl, rfl, by
        simp [cleanupLog]⟩
    · cases hcaught
  next hother =>
    obtain ⟨rfl, heq⟩ := h
    cases heq
    refine ⟨j₁, lifecycle, exam, j₂, cleanup, plays_lifecycle hlife, hclean, ?_⟩
    rcases lifecycle with (e | fault) | ⟨⟩
    · exact ⟨rfl, rfl, by simp [cleanupLog]⟩
    · exact ⟨rfl, rfl, by simp [cleanupLog]⟩
    · rcases cleanup with (e | fault) | ⟨⟩
      · exact ⟨rfl, rfl, by simp [cleanupLog]⟩
      · exact absurd rfl (hother _ rfl)
      · exact ⟨rfl, rfl, by simp [cleanupLog]⟩

/-! ## What a trial asks -/

theorem silent_faultLog (scope : String) (r : Except Halt α) : (Step.faultLog scope r).Silent := by
  rcases r with (e | fault) | a <;> exact ⟨rfl, rfl⟩

theorem silent_errorLog (name : String) (r : Except Halt Unit) : (errorLog name r).Silent := by
  rcases r with (e | fault) | a <;> exact ⟨rfl, rfl⟩

theorem silent_cleanupLog (name : String) (r cleanup : Except Halt Unit) :
    (cleanupLog name r cleanup).Silent := by
  rcases r with _ | ⟨⟩ <;> rcases cleanup with (e | fault) | ⟨⟩ <;> exact ⟨rfl, rfl⟩

/-- A trial deals with the kernel, and reports, as its lifecycle and its cleanup do. -/
theorem plays_trial {p : Probe C Obs} {c c' : C} {j : Journal} {o : Outcome} {evidence : Evidence}
    (h : (p.trial.run c).Plays j ((o, evidence), c')) :
    ∃ j₁ lifecycle context j₂ cleanup, p.Course c j₁ lifecycle ⟨context, evidence⟩ ∧
      p.cleanup.Plays context j₂ cleanup c' ∧ o = verdict lifecycle cleanup ∧
      j.kernel = j₁.kernel ++ j₂.kernel ∧ j.reports = j₁.reports ++ j₂.reports := by
  obtain ⟨j₁, lifecycle, ⟨context, _⟩, j₂, cleanup, hcourse, hclean, rfl, rfl, rfl⟩ := plays_run h
  -- all that a run adds to the journals of the two stages are log entries
  obtain ⟨hkernel₁, hreports₁⟩ := silent_faultLog p.spec.name lifecycle
  obtain ⟨hkernel₂, hreports₂⟩ := silent_faultLog p.spec.name cleanup
  obtain ⟨hkernel₃, hreports₃⟩ := silent_errorLog p.spec.name lifecycle
  obtain ⟨hkernel₄, hreports₄⟩ := silent_cleanupLog p.spec.name lifecycle cleanup
  refine ⟨j₁, lifecycle, context, j₂, cleanup, hcourse, hclean, rfl, ?_, ?_⟩
  · simp only [Journal.kernel_append, hkernel₁, hkernel₂, hkernel₃, hkernel₄, List.append_nil]
  · simp only [Journal.reports_append, hreports₁, hreports₂, hreports₃, hreports₄, List.append_nil]

/-- Without a cleanup, a probe passes if and only if its lifecycle comes to its end. -/
theorem plays_trial_of_no_cleanup {p : Probe C Obs} (hp : p.cleanup = pure ()) {c c' : C}
    {j : Journal} {o : Outcome} {evidence : Evidence}
    (h : (p.trial.run c).Plays j ((o, evidence), c')) :
    ∃ own r, p.Course c own r ⟨c', evidence⟩ ∧ (o = .pass ↔ r = .ok ()) ∧
      j.kernel = own.kernel ∧ j.reports = own.reports := by
  obtain ⟨own, r, context, j₂, cleanup, hcourse, hclean, rfl, hkernel, hreports⟩ := plays_trial h
  rw [hp] at hclean
  obtain ⟨rfl, rfl, rfl⟩ := Staged.plays_pure.mp hclean
  refine ⟨own, r, hcourse, ?_, by simpa using hkernel, by simpa using hreports⟩
  simp [verdict_eq_pass]

/-- Without a cleanup, the calls are those of the lifecycle. -/
theorem course_of_trial {p : Probe C Obs} (hp : p.cleanup = pure ()) {c c' : C} {j : Journal}
    {o : Outcome} {evidence : Evidence} (h : (p.trial.run c).Plays j ((o, evidence), c')) :
    ∃ own r, p.Course c own r ⟨c', evidence⟩ ∧ j.trace = own.trace := by
  obtain ⟨own, r, hcourse, -, hkernel, -⟩ := plays_trial_of_no_cleanup hp h
  exact ⟨own, r, hcourse, Journal.trace_eq_of_kernel hkernel⟩

end Probe

end KernelProbe
