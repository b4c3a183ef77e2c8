import Mathlib.Logic.Basic
import KernelProbe.Probe.Identity
import KernelProbe.Proofs.Probe.Course

/-!
# The courses of the identity probes

For each probe, everything that its lifecycle can go through: what it asks, what becomes of the
process id that the probes share, and when it comes to its end.
-/

namespace KernelProbe.Identity

variable {c : Context} {j : Journal} {r : Except Halt Unit} {exam : Exam Context}

/-! ## Thread-local storage -/

/-- The descriptor with which a slot is asked for. -/
def unassigned : ThreadAreaDescriptor := .flat ThreadAreaDescriptor.autoAssign

theorem plays_setThreadArea {slots : SlotRange} {c' : Context}
    {r : Except Halt ThreadAreaDescriptor}
    (h : (setThreadAreaProbe slots).invoke.Plays c j r c') :
    c' = c ∧ ∃ reply, j = [⟨.call (.setThreadArea unassigned), reply⟩] ∧
      ((∃ slot, reply.returned = .value slot ∧ r = .ok { unassigned with entryNumber := slot }) ∨
        (∀ slot, reply.returned ≠ .value slot) ∧ ∃ halt, r = .error halt) := by
  obtain ⟨reply, ⟨fault, hret, rfl, rfl, rfl⟩ | ⟨e | slot, j, hx, rfl, h₁⟩⟩ :=
    Step.plays_attempt_bind.mp h
  · exact ⟨rfl, reply, rfl, .inr ⟨by simp [hret], _, rfl⟩⟩
  · have hret := Returned.attempted_eq_failed.mp hx
    by_cases he : e.errno = .enosys
    all_goals
      simp only [he, if_true, if_false, Step.plays_fail] at h₁
      obtain ⟨rfl, rfl, rfl⟩ := h₁
      exact ⟨rfl, reply, rfl, .inr ⟨by simp [hret], _, rfl⟩⟩
  · have hret := Returned.attempted_eq_ok.mp hx
    obtain ⟨rfl, rfl, rfl⟩ := Staged.plays_pure.mp h₁
    exact ⟨rfl, reply, rfl, .inl ⟨slot, hret, rfl⟩⟩

/-- The slot has to be picked by the kernel, and to be in range. -/
theorem eval_checkSlot {slots : SlotRange} {descriptor : ThreadAreaDescriptor} {evidence : Evidence}
    (h : ((setThreadAreaProbe slots).check descriptor).eval ⟨c, evidence⟩ = (r, exam)) :
    exam.context = c ∧
      (r = .ok () ↔ descriptor.entryNumber ≠ ThreadAreaDescriptor.autoAssign ∧
        slots.contains descriptor.entryNumber = true) := by
  simp only [setThreadAreaProbe, Judge.eval_bind, Judge.eval_noteNat, Judge.eval_ite,
    Judge.eval_refute, Judge.eval_pure] at h
  split at h <;> rename_i hassigned
  · cases h
    simp_all [ThreadAreaDescriptor.isAssigned]
  · split at h <;> rename_i hslots
    · cases h
      simp_all [ThreadAreaDescriptor.isAssigned]
    · cases h
      simp_all [ThreadAreaDescriptor.isAssigned]

theorem setThreadArea_test {slots : SlotRange} (h : (setThreadAreaProbe slots).Test c j r exam) :
    exam.context = c ∧ ∃ reply, j = [⟨.call (.setThreadArea unassigned), reply⟩] ∧
      (r = .ok () ↔ ∃ slot, reply.returned = .value slot ∧
        slot ≠ ThreadAreaDescriptor.autoAssign ∧ slots.contains slot = true) := by
  cases h with
  | halts invoke =>
    obtain ⟨rfl, reply, rfl, ⟨slot, -, heq⟩ | ⟨hret, -⟩⟩ := plays_setThreadArea invoke
    · cases heq
    · exact ⟨rfl, reply, rfl, by simp [hret]⟩
  | judged invoke check =>
    obtain ⟨rfl, reply, rfl, ⟨slot, hret, heq⟩ | ⟨-, _, heq⟩⟩ := plays_setThreadArea invoke
    · cases heq
      obtain ⟨hcontext, hr⟩ := eval_checkSlot check
      exact ⟨hcontext, reply, rfl, by simp [hr, hret]⟩
    · cases heq

theorem setThreadArea_course {slots : SlotRange}
    (h : (setThreadAreaProbe slots).Course c j r exam) :
    exam.context = c ∧
      ((∃ known, j = [⟨.supports .setThreadArea, known⟩] ∧ known ≠ .ok true ∧ r ≠ .ok ()) ∨
        ∃ reply, j = [⟨.supports .setThreadArea, .ok true⟩,
            ⟨.call (.setThreadArea unassigned), reply⟩] ∧
          (r = .ok () ↔ ∃ slot, reply.returned = .value slot ∧
            slot ≠ ThreadAreaDescriptor.autoAssign ∧ slots.contains slot = true)) := by
  cases h with
  | setupHalts setup =>
    obtain ⟨known, rfl, hknown, rfl⟩ := Step.plays_unless_supports setup
    exact ⟨rfl, .inl ⟨known, rfl, by simpa using hknown, by simp⟩⟩
  | tested setup test =>
    obtain ⟨known, rfl, hknown, rfl⟩ := Step.plays_unless_supports setup
    obtain rfl := hknown.mp rfl
    obtain ⟨hcontext, reply, rfl, hr⟩ := setThreadArea_test test
    exact ⟨hcontext, .inr ⟨reply, rfl, hr⟩⟩

/-! ## Process and thread ids -/

/-- The process id is kept if and only if it is positive. -/
theorem getpid_course (h : getpidProbe.Course c j r exam) :
    ∃ reply, j = [⟨.call .getpid, reply⟩] ∧
      ((∃ pid, reply.returned = .value pid ∧ 0 < pid ∧ r = .ok () ∧ exam.context = ⟨some pid⟩) ∨
        (∀ pid, reply.returned = .value pid → ¬ 0 < pid) ∧ r ≠ .ok () ∧ exam.context = c) := by
  obtain ⟨reply, rfl, ⟨pid, hret, hcheck⟩ | ⟨hret, hr, rfl⟩⟩ := (h.test rfl).of_call .getpid rfl
  · simp only [getpidProbe, Judge.eval_bind, Judge.eval_noteInt, Judge.eval_ite, Judge.eval_refute,
      Judge.eval_update] at hcheck
    refine ⟨reply, rfl, ?_⟩
    by_cases hpid : pid ≤ 0
    · rw [if_pos hpid] at hcheck
      cases hcheck
      refine .inr ⟨fun pid' hret' => ?_, by simp, rfl⟩
      rw [hret] at hret'
      cases hret'
      exact Int32.not_lt.mpr hpid
    · rw [if_neg hpid] at hcheck
      cases hcheck
      exact .inl ⟨pid, hret, Int32.not_le.mp hpid, rfl, rfl⟩
  · exact ⟨reply, rfl, .inr ⟨fun pid hpid => absurd hpid (hret pid), hr, rfl⟩⟩

/-- The process id is fetched if it is not known and the model compares. -/
theorem plays_fetchPid {model : ThreadIdModel} {c' : Context}
    (h : (gettidProbe model).setup.Plays c j r c') :
    (j = [] ∧ r = .ok () ∧ c' = c ∧ (c.pid ≠ none ∨ model = .unchecked)) ∨
      c.pid = none ∧ model ≠ .unchecked ∧ ∃ reply, j = [⟨.call .getpid, reply⟩] ∧
        ((∃ pid, reply.returned = .value pid ∧ r = .ok () ∧ c' = ⟨some pid⟩) ∨
          (∀ pid, reply.returned ≠ .value pid) ∧ r ≠ .ok () ∧ c' = c) := by
  change Staged.Plays (get >>= _) c j r c' at h
  rw [Staged.plays_get_bind] at h
  split at h
  next hfetch =>
    simp only [Bool.and_eq_true, Option.isNone_iff_eq_none, bne_iff_ne, ne_eq] at hfetch
    refine .inr ⟨hfetch.1, hfetch.2, ?_⟩
    obtain ⟨reply, ⟨halt, hret, rfl, rfl, rfl⟩ | ⟨pid, j, hret, rfl, h₁⟩⟩ :=
      Step.plays_need_bind.mp h
    · exact ⟨reply, rfl, .inr ⟨Returned.ne_value_of_orHalt hret, by simp, rfl⟩⟩
    · obtain ⟨rfl, rfl, rfl⟩ := Staged.plays_modify.mp h₁
      exact ⟨reply, rfl, .inl ⟨pid, hret, rfl, rfl⟩⟩
  next hskip =>
    obtain ⟨rfl, rfl, rfl⟩ := Staged.plays_pure.mp h
    refine .inl ⟨rfl, rfl, rfl, ?_⟩
    simp only [Bool.and_eq_true, Option.isNone_iff_eq_none, bne_iff_ne, ne_eq] at hskip
    rcases not_and_or.mp hskip with hpid | hmodel
    · exact .inl hpid
    · exact .inr (not_not.mp hmodel)

/-- The thread id has to be positive, and to suit the process id if that is known. -/
theorem eval_checkTid {model : ThreadIdModel} {tid : Int32} {evidence : Evidence}
    (h : ((gettidProbe model).check tid).eval ⟨c, evidence⟩ = (r, exam)) :
    exam.context = c ∧
      (r = .ok () ↔ 0 < tid ∧ ∀ pid, c.pid = some pid → model.mismatch? tid pid = none) := by
  simp only [gettidProbe, Judge.eval_bind, Judge.eval_noteInt, Judge.eval_note, Judge.eval_ite,
    Judge.eval_refute, Judge.eval_context] at h
  by_cases htid : tid ≤ 0
  · rw [if_pos htid] at h
    cases h
    exact ⟨rfl, by simp [Int32.not_lt.mpr htid]⟩
  · rw [if_neg htid] at h
    have hpos : 0 < tid := Int32.not_le.mp htid
    cases hpid : c.pid with
    | none =>
      simp only [hpid, Judge.eval_pure] at h
      cases h
      exact ⟨rfl, by simp [hpos]⟩
    | some pid =>
      simp only [hpid] at h
      cases hmismatch : model.mismatch? tid pid with
      | none =>
        simp only [hmismatch, Judge.eval_pure] at h
        cases h
        exact ⟨rfl, by simp [hpos, hmismatch]⟩
      | some text =>
        simp only [hmismatch, Judge.eval_refute] at h
        cases h
        exact ⟨rfl, by simp [hmismatch]⟩

theorem gettid_test {model : ThreadIdModel} (h : (gettidProbe model).Test c j r exam) :
    exam.context = c ∧ ∃ reply, j = [⟨.call .gettid, reply⟩] ∧
      (r = .ok () ↔ ∃ tid, reply.returned = .value tid ∧ 0 < tid ∧
        ∀ pid, c.pid = some pid → model.mismatch? tid pid = none) := by
  obtain ⟨reply, rfl, ⟨tid, hret, hcheck⟩ | ⟨hret, hr, rfl⟩⟩ := h.of_call .gettid rfl
  · obtain ⟨hcontext, hpass⟩ := eval_checkTid hcheck
    exact ⟨hcontext, reply, rfl, by simp [hret, hpass]⟩
  · exact ⟨rfl, reply, rfl, by simp [hret, hr]⟩

theorem gettid_course {model : ThreadIdModel} (h : (gettidProbe model).Course c j r exam) :
    (c.pid = none ∧ model ≠ .unchecked ∧ exam.context = c ∧ r ≠ .ok () ∧
        ∃ reply, j = [⟨.call .getpid, reply⟩] ∧ ∀ pid, reply.returned ≠ .value pid) ∨
      ∃ fetch reply, j = fetch ++ [⟨.call .gettid, reply⟩] ∧
        ((fetch = [] ∧ exam.context = c ∧ (c.pid ≠ none ∨ model = .unchecked)) ∨
          c.pid = none ∧ model ≠ .unchecked ∧ ∃ reply₀ pid, fetch = [⟨.call .getpid, reply₀⟩] ∧
            reply₀.returned = .value pid ∧ exam.context = ⟨some pid⟩) ∧
        (r = .ok () ↔ ∃ tid, reply.returned = .value tid ∧ 0 < tid ∧
          ∀ pid, exam.context.pid = some pid → model.mismatch? tid pid = none) := by
  cases h with
  | setupHalts setup =>
    obtain ⟨-, heq, -⟩ | ⟨hpid, hmodel, reply, rfl, ⟨_, _, heq, _⟩ | ⟨hret, -, rfl⟩⟩ :=
      plays_fetchPid setup
    · cases heq
    · cases heq
    · exact .inl ⟨hpid, hmodel, rfl, by simp, reply, rfl, hret⟩
  | tested setup test =>
    obtain ⟨hcontext, reply, rfl, hr⟩ := gettid_test test
    rw [← hcontext] at hr
    obtain ⟨rfl, -, rfl, hknown⟩ | ⟨hpid, hmodel, reply₀, rfl, ⟨pid, hret₀, -, rfl⟩ | ⟨-, hr, -⟩⟩ :=
      plays_fetchPid setup
    · exact .inr ⟨[], reply, rfl, .inl ⟨rfl, hcontext, hknown⟩, hr⟩
    · exact .inr ⟨_, reply, rfl, .inr ⟨hpid, hmodel, reply₀, pid, rfl, hret₀, hcontext⟩, hr⟩
    · exact absurd rfl hr

/-! ## Giving up the processor -/

theorem schedYield_course (h : schedYieldProbe.Course c j r exam) :
    ∃ reply, j = [⟨.call .schedYield, reply⟩] ∧ (r = .ok () ↔ reply.returned = .value ()) ∧
      exam.context = c := by
  obtain ⟨reply, rfl, ⟨⟨⟩, hret, hcheck⟩ | ⟨hret, hr, rfl⟩⟩ := (h.test rfl).of_call .schedYield rfl
  · cases hcheck
    exact ⟨reply, rfl, by simp [hret], rfl⟩
  · exact ⟨reply, rfl, by simp [hret, hr], rfl⟩

end KernelProbe.Identity
