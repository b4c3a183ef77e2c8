import Mathlib.Logic.Basic
import KernelProbe.Probe.Lifecycle
import KernelProbe.Proofs.Probe.Course

/-!
# The courses of the lifecycle probes

For each probe, and for the teardown of the group, everything that it can go through: what it asks,
what becomes of the witness descriptor, and when it comes to its end. The descriptor that the probe
of a missing path opens is closed by its cleanup on every path, so the teardown finds none.
-/

namespace KernelProbe.Lifecycle

variable {c c' : Context} {j : Journal} {r : Except Halt Unit} {exam : Exam Context}
  {request : ExecRequest}

/-! ## The witness descriptor -/

/-- The call that opens the witness descriptor. -/
abbrev openWitness : Call := .openAt Files.workingDirectory Files.nullDevice 0 0

/-- The witness is closed if there is one, and is gone however that comes out. -/
theorem plays_closeWitness (h : closeWitness.Plays c j r c') :
    c' = { c with witnessFd := none } ∧ j.reports = [] ∧
      ((c.witnessFd = none ∧ j = [] ∧ r = .ok ()) ∨
        ∃ fd reply, c.witnessFd = some fd ∧ j.kernel = [⟨.call (.close fd), reply⟩] ∧
          ((∃ fault, r = .error (.panicked fault)) ↔
            ∃ fault, reply.returned = .panicked fault)) := by
  change Staged.Plays (get >>= _) c j r c' at h
  rw [Staged.plays_get_bind] at h
  cases hfd : c.witnessFd with
  | none =>
    rw [hfd] at h
    obtain ⟨rfl, rfl, rfl⟩ := Staged.plays_pure.mp h
    exact ⟨by rw [← hfd], rfl, .inl ⟨rfl, rfl, rfl⟩⟩
  | some fd =>
    rw [hfd] at h
    replace h := Staged.plays_modify_bind.mp h
    obtain ⟨reply, ⟨fault, hret, rfl, rfl, rfl⟩ | ⟨x, j₁, hx, rfl, h₁⟩⟩ :=
      Step.plays_attempt_bind.mp h
    · exact ⟨rfl, rfl, .inr ⟨fd, reply, rfl, rfl, by simp [hret]⟩⟩
    have hcame : ¬ ∃ fault, reply.returned = .panicked fault := by
      rintro ⟨fault, hret⟩
      rw [hret] at hx
      cases hx
    rcases x with e | ⟨⟩
    · obtain ⟨rfl, rfl, rfl⟩ := (Step.plays_log _).mp h₁
      exact ⟨rfl, rfl, .inr ⟨fd, reply, rfl, rfl, iff_of_false (by simp) hcame⟩⟩
    · obtain ⟨rfl, rfl, rfl⟩ := Staged.plays_pure.mp h₁
      exact ⟨rfl, rfl, .inr ⟨fd, reply, rfl, rfl, iff_of_false (by simp) hcame⟩⟩

/-- Without a witness, the cleanup closes nothing. -/
theorem cleanup_none (hc : c.witnessFd = none)
    (h : (execMissingProbe request).cleanup.Plays c j r c') :
    c'.witnessFd = none ∧ j = [] ∧ r = .ok () := by
  obtain ⟨rfl, -, ⟨-, rfl, rfl⟩ | ⟨fd, -, hfd, -⟩⟩ :=
    plays_closeWitness (Staged.plays_modify_bind.mp h)
  · exact ⟨rfl, rfl, rfl⟩
  · cases hc.symm.trans hfd

/-- A witness is closed by the cleanup, which gives up if and only if the close does. -/
theorem cleanup_some {fd : Int32} (hc : c.witnessFd = some fd)
    (h : (execMissingProbe request).cleanup.Plays c j r c') :
    c'.witnessFd = none ∧ ∃ reply, j.kernel = [⟨.call (.close fd), reply⟩] ∧
      ((∃ fault, r = .error (.panicked fault)) ↔ ∃ fault, reply.returned = .panicked fault) := by
  obtain ⟨rfl, -, ⟨hnone, -⟩ | ⟨fd', reply, hfd, hkernel, hgave⟩⟩ :=
    plays_closeWitness (Staged.plays_modify_bind.mp h)
  · cases hc.symm.trans hnone
  · cases hc.symm.trans hfd
    exact ⟨rfl, reply, hkernel, hgave⟩

/-! ## The missing path -/

/-- The setup learns the process id and opens the witness. -/
theorem plays_prepare (h : (execMissingProbe request).setup.Plays c j r c') :
    (∃ reply, j = [⟨.call .getpid, reply⟩] ∧ (∀ pid, reply.returned ≠ .value pid) ∧ c' = c ∧
        r ≠ .ok ()) ∨
      ∃ reply₁ pid reply₂, reply₁.returned = .value pid ∧
        j = [⟨.call .getpid, reply₁⟩, ⟨.call openWitness, reply₂⟩] ∧
        ((∃ fd, reply₂.returned = .value fd ∧ r = .ok () ∧
            c' = ⟨some pid, some fd, sentinelValue⟩) ∨
          (∀ fd, reply₂.returned ≠ .value fd) ∧ r ≠ .ok () ∧ c'.witnessFd = c.witnessFd) := by
  obtain ⟨reply₁, ⟨halt, hret, rfl, rfl, rfl⟩ | ⟨pid, j₁, hret₁, rfl, h₁⟩⟩ :=
    Step.plays_need_bind.mp h
  · exact .inl ⟨reply₁, rfl, Returned.ne_value_of_orHalt hret, rfl, by simp⟩
  rw [Staged.plays_modify_bind] at h₁
  obtain ⟨reply₂, ⟨halt, hret, rfl, rfl, rfl⟩ | ⟨fd, j₂, hret₂, rfl, h₂⟩⟩ :=
    Step.plays_need_bind.mp h₁
  · exact .inr ⟨reply₁, pid, reply₂, hret₁, rfl,
      .inr ⟨Returned.ne_value_of_orHalt hret, by simp, rfl⟩⟩
  · obtain ⟨rfl, rfl, rfl⟩ := Staged.plays_modify.mp h₂
    exact .inr ⟨reply₁, pid, reply₂, hret₁, rfl, .inl ⟨fd, hret₂, rfl, rfl⟩⟩

/-- The calls around an `execve` of a missing path, up to the first that stops the probe. -/
theorem plays_execMissing {fd : Int32} (hfd : c.witnessFd = some fd)
    {r : Except Halt MissingObservation}
    (h : (execMissingProbe request).invoke.Plays c j r c') :
    c' = c ∧ ∃ reply₁,
      ((∃ halt, r = .error halt) ∧
        (j = [⟨.call (.execve request), reply₁⟩] ∧ (∃ fault, reply₁.returned = .panicked fault) ∨
          ∃ reply₂, j = [⟨.call (.execve request), reply₁⟩, ⟨.call .getpid, reply₂⟩] ∧
            ∀ pid, reply₂.returned ≠ .value pid)) ∨
      ∃ reply₂ reply₃, j = [⟨.call (.execve request), reply₁⟩, ⟨.call .getpid, reply₂⟩,
          ⟨.call (.read fd 1), reply₃⟩] ∧
        (((∃ halt, r = .error halt) ∧ ∃ fault, reply₃.returned = .panicked fault) ∨
          ∃ x pid y, reply₁.returned.attempted = .ok x ∧ reply₂.returned = .value pid ∧
            reply₃.returned.attempted = .ok y ∧
            r = .ok ⟨execResult x, pid, y.map (·.count), c.sentinel⟩) := by
  change Staged.Plays (get >>= _) c j r c' at h
  rw [Staged.plays_get_bind, hfd] at h
  obtain ⟨reply₁, ⟨fault, hret, rfl, rfl, rfl⟩ | ⟨x, j₁, hx, rfl, h₁⟩⟩ :=
    Step.plays_attempt_bind.mp h
  · exact ⟨rfl, reply₁, .inl ⟨⟨_, rfl⟩, .inl ⟨rfl, fault, hret⟩⟩⟩
  obtain ⟨reply₂, ⟨halt, hret, rfl, rfl, rfl⟩ | ⟨pid, j₂, hret₂, rfl, h₂⟩⟩ :=
    Step.plays_call_bind.mp h₁
  · exact ⟨rfl, reply₁,
      .inl ⟨⟨_, rfl⟩, .inr ⟨reply₂, rfl, Returned.ne_value_of_orHalt hret⟩⟩⟩
  obtain ⟨reply₃, ⟨fault, hret, rfl, rfl, rfl⟩ | ⟨y, j₃, hy, rfl, h₃⟩⟩ :=
    Step.plays_attempt_bind.mp h₂
  · exact ⟨rfl, reply₁, .inr ⟨reply₂, reply₃, rfl, .inl ⟨⟨_, rfl⟩, fault, hret⟩⟩⟩
  rw [Staged.plays_get_bind] at h₃
  obtain ⟨rfl, rfl, rfl⟩ := Staged.plays_pure.mp h₃
  exact ⟨rfl, reply₁, .inr ⟨reply₂, reply₃, rfl, .inr ⟨x, pid, y, hx, hret₂, hy, rfl⟩⟩⟩

theorem eval_noteResult (request : ExecRequest) (result : RawReturn) (exam : Exam Context) :
    ∃ evidence, (noteResult request result).eval exam = (.ok (), ⟨exam.context, evidence⟩) := by
  cases herrno : result.errno with
  | none => exact ⟨_, by simp [noteResult, herrno]; rfl⟩
  | some errno => exact ⟨_, by simp [noteResult, herrno]; rfl⟩

/-- The call has to fail because of the path, and leave the caller as it was. -/
theorem eval_checkMissing {observed : MissingObservation} {pid : Int32}
    (hpid : c.pidBefore = some pid)
    (h : ((execMissingProbe request).check observed).eval ⟨c, .empty⟩ = (r, exam)) :
    exam.context = c ∧ (r = .ok () ↔ observed.result.errno = some .enoent ∧
      observed.pidAfter = pid ∧ (∃ n, observed.witnessRead = .ok n) ∧
      observed.sentinelAfter = sentinelValue) := by
  obtain ⟨evidence, hnote⟩ := eval_noteResult request observed.result ⟨c, .empty⟩
  simp only [execMissingProbe, Judge.eval_bind, hnote, Judge.eval_ite, Judge.eval_refute,
    Judge.eval_fail, Judge.eval_context, hpid, bne_iff_ne, ne_eq, ite_not] at h
  by_cases hsucceeded : observed.result.succeeded = true
  · rw [if_pos hsucceeded] at h
    cases h
    -- a return that counts as a success has no error number
    have herrno : observed.result.errno = none := by
      simpa using (Bool.and_eq_true_iff.mp hsucceeded).1
    exact ⟨rfl, by simp [herrno]⟩
  rw [if_neg hsucceeded] at h
  by_cases herrno : observed.result.errno = some .enoent
  · rw [if_pos herrno] at h
    by_cases hsame : pid = observed.pidAfter
    · rw [if_pos hsame] at h
      cases hread : observed.witnessRead with
      | error e =>
        simp only [hread, Judge.eval_bind, Judge.eval_refute] at h
        cases h
        exact ⟨rfl, by simp⟩
      | ok n =>
        simp only [hread, Judge.eval_ite, Judge.eval_refute, Judge.eval_pure] at h
        by_cases hsentinel : observed.sentinelAfter = sentinelValue
        · rw [if_pos hsentinel] at h
          cases h
          exact ⟨rfl, by simp [herrno, hsame, hsentinel]⟩
        · rw [if_neg hsentinel] at h
          cases h
          exact ⟨rfl, by simp [hsentinel]⟩
    · rw [if_neg hsame] at h
      cases h
      exact ⟨rfl, by simp [Ne.symm hsame]⟩
  · rw [if_neg herrno] at h
    cases h
    exact ⟨rfl, by simp [herrno]⟩

/-- A returned `execve` carries the error number of the error that it returned. -/
theorem errno_execResult (x : Except SyscallError Int64) (errno : Errno) :
    (execResult x).errno = some errno ↔ ∃ e, x = .error e ∧ e.errno = errno := by
  cases x <;> simp [execResult, RawReturn.ok, SyscallError.raw]

theorem execMissing_test {pid fd : Int32}
    (h : (execMissingProbe request).Test ⟨some pid, some fd, sentinelValue⟩ j r exam) :
    exam.context.witnessFd = some fd ∧ ∃ reply₁,
      (r ≠ .ok () ∧
        (j = [⟨.call (.execve request), reply₁⟩] ∧ (∃ fault, reply₁.returned = .panicked fault) ∨
          ∃ reply₂, j = [⟨.call (.execve request), reply₁⟩, ⟨.call .getpid, reply₂⟩] ∧
            ∀ pid, reply₂.returned ≠ .value pid)) ∨
      ∃ reply₂ reply₃, j = [⟨.call (.execve request), reply₁⟩, ⟨.call .getpid, reply₂⟩,
          ⟨.call (.read fd 1), reply₃⟩] ∧
        (r = .ok () ↔ (∃ e, reply₁.returned = .failed e ∧ e.errno = .enoent) ∧
          reply₂.returned = .value pid ∧ ∃ data, reply₃.returned = .value data) := by
  cases h with
  | halts invoke =>
    obtain ⟨rfl, reply₁, ⟨-, hj⟩ | ⟨reply₂, reply₃, rfl, ⟨-, _, hret⟩ | ⟨_, _, _, _, _, _, heq⟩⟩⟩ :=
      plays_execMissing rfl invoke
    · exact ⟨rfl, reply₁, .inl ⟨by simp, hj⟩⟩
    · exact ⟨rfl, reply₁, .inr ⟨reply₂, reply₃, rfl, by simp [hret]⟩⟩
    · cases heq
  | judged invoke check =>
    obtain ⟨rfl, reply₁, ⟨⟨_, heq⟩, -⟩ | ⟨reply₂, reply₃, rfl, ⟨⟨_, heq⟩, -⟩ |
      ⟨x, pid', y, hx, hpid, hy, heq⟩⟩⟩ :=
      plays_execMissing rfl invoke
    · cases heq
    · cases heq
    · cases heq
      obtain ⟨hcontext, hr⟩ := eval_checkMissing rfl check
      -- the observation holds the three replies as they were attempted
      have hfailed (e : SyscallError) : x = .error e ↔ reply₁.returned = .failed e := by
        rw [← Returned.attempted_eq_failed, hx, Except.ok.injEq]
      have hsame : pid' = pid ↔ reply₂.returned = .value pid := by rw [hpid, Returned.value.injEq]
      have hread : (∃ n, y.map (·.count) = .ok n) ↔ ∃ data, reply₃.returned = .value data := by
        cases y with
        | error e =>
          rw [Returned.attempted_eq_failed.mp hy]
          simp [Except.map]
        | ok data =>
          rw [Returned.attempted_eq_ok.mp hy]
          simp [Except.map]
      refine ⟨by rw [hcontext], reply₁, .inr ⟨reply₂, reply₃, rfl, hr.trans ?_⟩⟩
      simp only [errno_execResult, hfailed, hsame, hread, and_true]

theorem execMissing_course (h : (execMissingProbe request).Course c j r exam) :
    (exam.context.witnessFd = c.witnessFd ∧ r ≠ .ok () ∧
        ((∃ reply, j = [⟨.call .getpid, reply⟩] ∧ ∀ pid, reply.returned ≠ .value pid) ∨
          ∃ reply₁ reply₂, j = [⟨.call .getpid, reply₁⟩, ⟨.call openWitness, reply₂⟩] ∧
            ∀ fd, reply₂.returned ≠ .value fd)) ∨
      ∃ reply₁ pid reply₂ fd rest, reply₁.returned = .value pid ∧ reply₂.returned = .value fd ∧
        j = ⟨.call .getpid, reply₁⟩ :: ⟨.call openWitness, reply₂⟩ :: rest ∧
        (execMissingProbe request).Test ⟨some pid, some fd, sentinelValue⟩ rest r exam := by
  cases h with
  | setupHalts setup =>
    obtain ⟨reply, rfl, hret, rfl, -⟩ |
      ⟨reply₁, pid, reply₂, -, rfl, ⟨_, _, heq, _⟩ | ⟨hret, -, hfd⟩⟩ := plays_prepare setup
    · exact .inl ⟨rfl, by simp, .inl ⟨reply, rfl, hret⟩⟩
    · cases heq
    · exact .inl ⟨hfd, by simp, .inr ⟨reply₁, reply₂, rfl, hret⟩⟩
  | tested setup test =>
    obtain ⟨_, -, -, -, hr⟩ |
      ⟨reply₁, pid, reply₂, hret₁, rfl, ⟨fd, hret₂, -, rfl⟩ | ⟨-, hr, -⟩⟩ := plays_prepare setup
    · exact absurd rfl hr
    · exact .inr ⟨reply₁, pid, reply₂, fd, _, hret₁, hret₂, rfl, test⟩
    · exact absurd rfl hr

/-! ## The existing program -/

/-- A success is a value that is not negative, and is right only if the caller goes on after it. -/
theorem eval_checkExisting {model : ExecModel} {x : Except SyscallError Int64}
    (h : ((execExistingProbe request model).check (execResult x)).eval ⟨c, .empty⟩ = (r, exam)) :
    exam.context = c ∧ (r = .ok () ↔ model = .spawn ∧ ∃ ret, x = .ok ret ∧ 0 ≤ ret) := by
  obtain ⟨evidence, hnote⟩ := eval_noteResult request (execResult x) ⟨c, .empty⟩
  have hsucceeded : (execResult x).succeeded = true ↔ ∃ ret, x = .ok ret ∧ 0 ≤ ret := by
    cases x with
    | error e => simp [execResult, RawReturn.succeeded, SyscallError.raw]
    | ok ret =>
      simp only [execResult, RawReturn.succeeded, RawReturn.ok, Option.isNone_none, Bool.true_and,
        Except.ok.injEq, exists_eq_left']
      exact decide_eq_true_iff
  simp only [execExistingProbe, Judge.eval_bind, hnote, Judge.eval_note, Judge.eval_ite,
    Judge.eval_refute, Judge.eval_fail, Judge.eval_pure] at h
  by_cases hx : (execResult x).succeeded = true
  · rw [if_neg (by simp [hx])] at h
    cases model with
    | replace =>
      cases h
      exact ⟨rfl, by simp⟩
    | spawn =>
      cases h
      exact ⟨rfl, by simp [hsucceeded.mp hx]⟩
  · rw [if_pos (by simp [hx])] at h
    cases h
    rw [hsucceeded] at hx
    exact ⟨rfl, by simp [hx]⟩

theorem execExisting_course {model : ExecModel}
    (h : (execExistingProbe request model).Course c j r exam) :
    exam.context = c ∧ ∃ reply, j = [⟨.call (.execve request), reply⟩] ∧
      (r = .ok () ↔ model = .spawn ∧ ∃ ret, reply.returned = .value ret ∧ 0 ≤ ret) := by
  cases h.test rfl with
  | halts invoke =>
    obtain ⟨reply, ⟨fault, hret, rfl, -, rfl⟩ | ⟨x, j₁, -, rfl, h₁⟩⟩ :=
      Step.plays_attempt_bind.mp invoke
    · exact ⟨rfl, reply, rfl, by simp [hret]⟩
    · obtain ⟨-, heq, -⟩ := Staged.plays_pure.mp h₁
      cases heq
  | judged invoke check =>
    obtain ⟨reply, ⟨fault, hret, rfl, heq, -⟩ | ⟨x, j₁, hx, rfl, h₁⟩⟩ :=
      Step.plays_attempt_bind.mp invoke
    · cases heq
    obtain ⟨rfl, heq, rfl⟩ := Staged.plays_pure.mp h₁
    cases heq
    obtain ⟨hcontext, hr⟩ := eval_checkExisting check
    refine ⟨hcontext, reply, rfl, hr.trans (and_congr_right' (exists_congr fun ret => ?_))⟩
    rw [← Returned.attempted_eq_ok, hx, Except.ok.injEq]

end KernelProbe.Lifecycle
