import Mathlib.Logic.Basic
import KernelProbe.Probe.Concurrency
import KernelProbe.Proofs.Probe.Course

/-!
# The courses of the concurrency probes

For each probe, and for the teardown of the group, everything that it can go through: what it asks,
what becomes of the child that the probes share, and when it comes to its end. A join ends at the
first look that finds the child's word at 0, and passes if and only if there is such a look.
-/

namespace KernelProbe.Concurrency

variable {c c' : Context} {j : Journal} {r : Except Halt Unit} {exam : Exam Context}

/-! ## Futex -/

/-- The call that has to be refused. -/
abbrev refusedWait (timeout : Duration) : Call :=
    .futexWait initialWord mismatchedWord (some timeout)

theorem plays_refusedWait {timeout : Duration} {r : Except Halt WaitObservation}
    (h : (futexWaitProbe timeout).invoke.Plays (c.storeWord initialWord) j r c') :
    c'.child = c.child ∧ j.reports = [] ∧
      ∃ reply, j.kernel = [⟨.call (refusedWait timeout), reply⟩] ∧
        ((∃ observed, reply.returned.attempted = .ok observed.result ∧ r = .ok observed) ∨
          (∃ fault, reply.returned = .panicked fault) ∧ ∃ halt, r = .error halt) := by
  obtain ⟨started, j, rfl, h₁⟩ := Step.plays_clock_bind.mp h
  rw [Staged.plays_get_bind] at h₁
  obtain ⟨reply, ⟨fault, hret, rfl, rfl, rfl⟩ | ⟨x, j, hx, rfl, h₂⟩⟩ :=
    Step.plays_attemptStoring_bind.mp h₁
  · refine ⟨?_, rfl, reply, rfl, .inr ⟨⟨fault, hret⟩, _, rfl⟩⟩
    cases reply.stored <;> rfl
  · obtain ⟨ended, j, rfl, h₃⟩ := Step.plays_clock_bind.mp h₂
    obtain ⟨rfl, rfl, rfl⟩ := Staged.plays_pure.mp h₃
    refine ⟨?_, rfl, reply, rfl, .inl ⟨_, hx, rfl⟩⟩
    cases reply.stored <;> rfl

/-- The wait has to be refused because of the word. -/
theorem eval_checkWait {timeout : Duration} {observed : WaitObservation}
    (h : ((futexWaitProbe timeout).check observed).eval ⟨c, .empty⟩ = (r, exam)) :
    exam.context = c ∧ (r = .ok () ↔ ∃ e, observed.result = .error e ∧ e.errno = .eagain) := by
  simp only [futexWaitProbe, Judge.eval_bind, Judge.eval_noteNat] at h
  cases hresult : observed.result with
  | ok ret =>
    rw [hresult] at h
    cases h
    exact ⟨rfl, by simp⟩
  | error e =>
    simp only [hresult, Judge.eval_ite, Judge.eval_note, Judge.eval_refute, Judge.eval_fail] at h
    by_cases hagain : e.errno = .eagain
    · rw [if_pos hagain] at h
      cases h
      exact ⟨rfl, by simp [hagain]⟩
    · rw [if_neg hagain] at h
      split at h
      all_goals
        cases h
        exact ⟨rfl, by simp [hagain]⟩

theorem futexWait_course {timeout : Duration} (h : (futexWaitProbe timeout).Course c j r exam) :
    exam.context.child = c.child ∧ j.reports = [] ∧
      ∃ reply, j.kernel = [⟨.call (refusedWait timeout), reply⟩] ∧
        (r = .ok () ↔ ∃ e, reply.returned = .failed e ∧ e.errno = .eagain) := by
  cases h with
  | setupHalts setup =>
    obtain ⟨-, heq, -⟩ := Staged.plays_modify.mp setup
    cases heq
  | tested setup test =>
    obtain ⟨rfl, -, rfl⟩ := Staged.plays_modify.mp setup
    cases test with
    | halts invoke =>
      obtain ⟨hchild, hreports, reply, hkernel, ⟨_, _, heq⟩ | ⟨⟨fault, hret⟩, -⟩⟩ :=
        plays_refusedWait invoke
      · cases heq
      · exact ⟨hchild, hreports, reply, hkernel, by simp [hret]⟩
    | judged invoke check =>
      obtain ⟨hchild, hreports, reply, hkernel, ⟨_, hret, heq⟩ | ⟨-, _, heq⟩⟩ :=
        plays_refusedWait invoke
      · cases heq
        obtain ⟨hcontext, hr⟩ := eval_checkWait check
        refine ⟨by rw [hcontext, hchild], hreports, reply, hkernel, hr.trans ?_⟩
        refine exists_congr fun e => and_congr_left' ?_
        rw [← Returned.attempted_eq_failed, hret, Except.ok.injEq]
      · cases heq

theorem plays_wake {count : Int32} {r : Except Halt Int64}
    (h : (futexWakeProbe count).invoke.Plays c j r c') :
    c'.child = c.child ∧ ∃ reply, j = [⟨.call (.futexWake c.word count), reply⟩] ∧
      ((∃ woken, reply.returned = .value woken ∧ r = .ok woken) ∨
        (∀ woken, reply.returned ≠ .value woken) ∧ ∃ halt, r = .error halt) := by
  change Staged.Plays (get >>= _) c j r c' at h
  rw [Staged.plays_get_bind] at h
  obtain ⟨reply, hreply⟩ := Step.plays_attemptStoring_bind.mp h
  have hchild : (reply.stored.elim c (Context.storeWord · c)).child = c.child := by
    cases reply.stored <;> rfl
  obtain ⟨fault, hret, rfl, rfl, rfl⟩ | ⟨e | woken, j, hx, rfl, h₁⟩ := hreply
  · exact ⟨hchild, reply, rfl, .inr ⟨by simp [hret], _, rfl⟩⟩
  · obtain ⟨rfl, rfl, rfl⟩ := Step.plays_fail.mp h₁
    exact ⟨hchild, reply, rfl, .inr ⟨by simp [Returned.attempted_eq_failed.mp hx], _, rfl⟩⟩
  · obtain ⟨rfl, rfl, rfl⟩ := Staged.plays_pure.mp h₁
    exact ⟨hchild, reply, rfl, .inl ⟨woken, Returned.attempted_eq_ok.mp hx, rfl⟩⟩

theorem eval_checkWake {count : Int32} {woken : Int64}
    (h : ((futexWakeProbe count).check woken).eval ⟨c, .empty⟩ = (r, exam)) :
    exam.context = c ∧ (r = .ok () ↔ woken = 0) := by
  simp only [futexWakeProbe, Judge.eval_bind, Judge.eval_noteInt, Judge.eval_ite,
    Judge.eval_refute, Judge.eval_pure] at h
  by_cases hwoken : woken = 0
  · rw [if_neg (by simp [hwoken])] at h
    cases h
    simp [hwoken]
  · rw [if_pos (by simp [hwoken])] at h
    cases h
    simp [hwoken]

theorem futexWake_course {count : Int32} (h : (futexWakeProbe count).Course c j r exam) :
    exam.context.child = c.child ∧
      ∃ reply, j = [⟨.call (.futexWake c.word count), reply⟩] ∧
        (r = .ok () ↔ reply.returned = .value 0) := by
  cases h.test rfl with
  | halts invoke =>
    obtain ⟨hchild, reply, rfl, ⟨_, _, heq⟩ | ⟨hret, -⟩⟩ := plays_wake invoke
    · cases heq
    · exact ⟨hchild, reply, rfl, by simp [hret]⟩
  | judged invoke check =>
    obtain ⟨hchild, reply, rfl, ⟨_, hret, heq⟩ | ⟨-, _, heq⟩⟩ := plays_wake invoke
    · cases heq
      obtain ⟨hcontext, hr⟩ := eval_checkWake check
      exact ⟨by rw [hcontext, hchild], reply, rfl, by simp [hr, hret]⟩
    · cases heq

/-! ## Clone -/

/-- A child is made only if the kernel can make one and none is tracked. -/
theorem plays_needNoChild {size : UInt64} {status : Int32}
    (h : (cloneProbe size status).setup.Plays c j r c') :
    c' = c ∧ ∃ known, j = [⟨.supports .clone, known⟩] ∧
      (r = .ok () ↔ known = .ok true ∧ c.child = none) := by
  obtain ⟨fault, rfl, rfl, rfl⟩ | ⟨known, j, rfl, h₁⟩ := Step.plays_supports_bind.mp h
  · exact ⟨rfl, _, rfl, by simp⟩
  cases known with
  | false =>
    obtain ⟨rfl, rfl, rfl⟩ := Staged.plays_throw_bind.mp h₁
    exact ⟨rfl, _, rfl, by simp⟩
  | true =>
    obtain ⟨rfl, rfl, ⟨hchild, rfl⟩ | ⟨hchild, rfl⟩⟩ := Step.plays_fail_if h₁
    · exact ⟨rfl, _, rfl, by simpa using Option.isSome_iff_ne_none.mp hchild⟩
    · exact ⟨rfl, _, rfl, by simpa using hchild⟩

/-- A child is tracked as soon as it is made. -/
theorem plays_clone {size : UInt64} {status : Int32} {stack : ThreadStack}
    (hstack : ThreadStack.allocate size = .ok stack) {r : Except Halt Int32}
    (h : (cloneProbe size status).invoke.Plays c j r c') :
    ∃ reply, j = [⟨.call (.clone stack 0 status), reply⟩] ∧
      ((∃ tid, reply.returned = .value tid ∧ r = .ok tid ∧
          c' = { c with child := some ⟨tid, stack, reply.stored.getD 0⟩ }) ∨
        (∀ tid, reply.returned ≠ .value tid) ∧ (∃ halt, r = .error halt) ∧ c' = c) := by
  simp only [cloneProbe, hstack, Step.ofExcept_ok, pure_bind] at h
  obtain ⟨reply, j, rfl, h₁⟩ := (Step.plays_ask_bind (.call (.clone stack 0 status))).mp h
  cases hret : reply.returned with
  | value tid =>
    rw [hret] at h₁
    replace h₁ := Staged.plays_modify_bind.mp h₁
    obtain ⟨rfl, rfl, rfl⟩ := Staged.plays_pure.mp h₁
    exact ⟨reply, rfl, .inl ⟨tid, hret, rfl, rfl⟩⟩
  | failed e =>
    rw [hret] at h₁
    obtain ⟨rfl, rfl, rfl⟩ := Step.plays_fail.mp h₁
    exact ⟨reply, rfl, .inr ⟨by simp [hret], ⟨_, rfl⟩, rfl⟩⟩
  | panicked fault =>
    rw [hret] at h₁
    obtain ⟨rfl, rfl, rfl⟩ := Step.plays_panic.mp h₁
    exact ⟨reply, rfl, .inr ⟨by simp [hret], ⟨_, rfl⟩, rfl⟩⟩

theorem eval_checkClone {size : UInt64} {status tid : Int32}
    (h : ((cloneProbe size status).check tid).eval ⟨c, .empty⟩ = (r, exam)) :
    exam.context = c ∧ (r = .ok () ↔ 0 < tid) := by
  simp only [cloneProbe, Judge.eval_bind, Judge.eval_noteInt, Judge.eval_note, Judge.eval_ite,
    Judge.eval_refute, Judge.eval_pure] at h
  by_cases htid : tid ≤ 0
  · rw [if_pos htid] at h
    cases h
    exact ⟨rfl, by simp [Int32.not_lt.mpr htid]⟩
  · rw [if_neg htid] at h
    cases h
    exact ⟨rfl, by simp [Int32.not_le.mp htid]⟩

theorem clone_course {size : UInt64} {status : Int32} {stack : ThreadStack}
    (hstack : ThreadStack.allocate size = .ok stack)
    (h : (cloneProbe size status).Course c j r exam) :
    (∃ known, j = [⟨.supports .clone, known⟩] ∧ (known ≠ .ok true ∨ c.child ≠ none) ∧
        exam.context = c ∧ r ≠ .ok ()) ∨
      c.child = none ∧
        ∃ reply, j = [⟨.supports .clone, .ok true⟩, ⟨.call (.clone stack 0 status), reply⟩] ∧
          ((∃ tid, reply.returned = .value tid ∧ (r = .ok () ↔ 0 < tid) ∧
              exam.context = { c with child := some ⟨tid, stack, reply.stored.getD 0⟩ }) ∨
            (∀ tid, reply.returned ≠ .value tid) ∧ r ≠ .ok () ∧ exam.context = c) := by
  cases h with
  | setupHalts setup =>
    obtain ⟨rfl, known, rfl, hknown⟩ := plays_needNoChild setup
    refine .inl ⟨known, rfl, ?_, rfl, by simp⟩
    rw [← not_and_or, ← hknown]
    simp
  | tested setup test =>
    obtain ⟨rfl, known, rfl, hknown⟩ := plays_needNoChild setup
    obtain ⟨rfl, hchild⟩ := hknown.mp rfl
    cases test with
    | halts invoke =>
      obtain ⟨reply, rfl, ⟨_, _, heq, _⟩ | ⟨hret, -, rfl⟩⟩ := plays_clone hstack invoke
      · cases heq
      · exact .inr ⟨hchild, reply, rfl, .inr ⟨hret, by simp, rfl⟩⟩
    | judged invoke check =>
      obtain ⟨reply, rfl, ⟨tid, hret, heq, rfl⟩ | ⟨-, ⟨_, heq⟩, -⟩⟩ := plays_clone hstack invoke
      · cases heq
        obtain ⟨hcontext, hr⟩ := eval_checkClone check
        exact .inr ⟨hchild, reply, rfl, .inl ⟨_, hret, hr, hcontext⟩⟩
      · cases heq

/-! ## Join -/

/-- What a part of a join asks: it reports nothing, and waits or gives up the processor. -/
structure Joining (j : Journal) : Prop where
  reports : j.reports = []
  calls : ∀ c ∈ j.calls, c.syscall = .futex ∨ c.syscall = .schedYield

theorem Joining.append {j₁ j₂ : Journal} (h₁ : Joining j₁) (h₂ : Joining j₂) :
    Joining (j₁ ++ j₂) where
  reports := by rw [Journal.reports_append, h₁.reports, h₂.reports]; rfl
  calls x hx := by
    rw [Journal.calls_append, List.mem_append] at hx
    exact hx.elim (h₁.calls x) (h₂.calls x)

/-- What a join has found when it is over: it is joined if and only if it read the word as 0, and it
asks nothing of the kernel after that. -/
structure Finds (observed : JoinObservation) (j : Journal) : Prop where
  joined : observed.joined = true ↔ j.ReadZero
  last : j.ReadZero → j.EndsAtZero

theorem Finds.append {observed : JoinObservation} {j₁ j₂ : Journal} (h : Finds observed j₂)
    (hzero : ¬ j₁.ReadZero) : Finds observed (j₁ ++ j₂) where
  joined := by rw [h.joined, Journal.readZero_append, or_iff_right hzero]
  last hread := (h.last ((Journal.readZero_append.mp hread).resolve_left hzero)).append_left

/-- A look reads the word once; it ends the join if the word is 0. -/
theorem plays_look {child : Child} {started deadline : Instant} {waits : Nat}
    {r : Except Halt (JoinObservation ⊕ UInt32 × Duration)}
    (h : (look child started deadline waits).Plays c j r c') :
    Joining j ∧ j.kernel ≠ [] ∧
      ((∃ observed, r = .ok (.inl observed) ∧ Finds observed j) ∨
        (∃ wait, r = .ok (.inr wait)) ∧ ¬ j.ReadZero) := by
  change Staged.Plays (get >>= _) c j r c' at h
  rw [Staged.plays_get_bind] at h
  obtain ⟨word, j₁, rfl, h₁⟩ := Step.plays_load_bind.mp h
  rw [Staged.plays_modify_bind] at h₁
  obtain ⟨now, j₂, rfl, h₂⟩ := Step.plays_clock_bind.mp h₁
  -- a word of 0 ends the join, and so does a clock past the deadline
  by_cases hend : word = 0 ∨ deadline.nanos ≤ now.nanos
  · rw [if_pos hend] at h₂
    obtain ⟨ended, j₃, rfl, h₃⟩ := Step.plays_clock_bind.mp h₂
    obtain ⟨rfl, rfl, rfl⟩ := Staged.plays_pure.mp h₃
    refine ⟨⟨rfl, by simp [Journal.calls_cons, Entry.call?]⟩, by simp [Request.toKernel],
      .inl ⟨_, rfl, by simp, fun hread => ?_⟩⟩
    obtain rfl : word = 0 := by simpa using hread
    exact ⟨_, rfl⟩
  · rw [if_neg hend] at h₂
    obtain ⟨rfl, rfl, rfl⟩ := Staged.plays_pure.mp h₂
    rw [not_or] at hend
    exact ⟨⟨rfl, by simp [Journal.calls_cons, Entry.call?]⟩, by simp [Request.toKernel],
      .inr ⟨⟨_, rfl⟩, by simpa using hend.1⟩⟩

/-- A look does not halt the step, so what follows it follows. -/
theorem plays_look_bind {child : Child} {started deadline : Instant} {waits : Nat}
    {f : JoinObservation ⊕ UInt32 × Duration → Step Context JoinObservation}
    {r : Except Halt JoinObservation}
    (h : Staged.Plays (look child started deadline waits >>= f) c j r c') :
    ∃ j₁ x c₁ j₂, j = j₁ ++ j₂ ∧ Joining j₁ ∧ j₁.kernel ≠ [] ∧ Staged.Plays (f x) c₁ j₂ r c' ∧
      ((∃ observed, x = .inl observed ∧ Finds observed j₁) ∨
        (∃ wait, x = .inr wait) ∧ ¬ j₁.ReadZero) := by
  obtain ⟨halt, hlook, rfl⟩ | ⟨j₁, x, c₁, j₂, rfl, hlook, hrest⟩ := Staged.plays_bind.mp h
  · obtain ⟨-, -, ⟨_, heq, -⟩ | ⟨⟨_, heq⟩, -⟩⟩ := plays_look hlook
    · cases heq
    · cases heq
  · obtain ⟨hjoin, hkernel, hr⟩ := plays_look hlook
    refine ⟨j₁, x, c₁, j₂, rfl, hjoin, hkernel, hrest, ?_⟩
    simpa only [Except.ok.injEq] using hr

/-- A wait reads no word. -/
theorem plays_awaitOnce {word : UInt32} {timeout : Duration}
    (h : (awaitOnce word timeout).Plays c j r c') : Joining j ∧ ¬ j.ReadZero := by
  obtain ⟨reply, ⟨fault, hret, rfl, -, -⟩ | ⟨e | v, j₁, hx, rfl, h₁⟩⟩ :=
    Step.plays_attemptStoring_bind.mp h
  · exact ⟨⟨rfl, by simp [Journal.calls_cons, Entry.call?, Call.syscall]⟩, by simp⟩
  -- an error that does not ask for another try is logged, and the processor given up
  · by_cases hretry : isRetry e = true
    · simp only [hretry, if_true] at h₁
      obtain ⟨rfl, -, -⟩ := Staged.plays_pure.mp h₁
      exact ⟨⟨rfl, by simp [Journal.calls_cons, Entry.call?, Call.syscall]⟩, by simp⟩
    · simp only [hretry] at h₁
      obtain ⟨j₂, rfl, h₂⟩ := Step.plays_log_bind.mp h₁
      obtain ⟨_, rfl, -, -⟩ := (Step.plays_call .schedYield).mp h₂
      exact ⟨⟨rfl, by simp [Journal.calls_cons, Entry.call?, Call.syscall]⟩, by simp⟩
  · obtain ⟨rfl, -, -⟩ := Staged.plays_pure.mp h₁
    exact ⟨⟨rfl, by simp [Journal.calls_cons, Entry.call?, Call.syscall]⟩, by simp⟩

/-- The join ends with the word at 0 if and only if a look finds it so. -/
theorem plays_joinLoop {child : Child} {started deadline : Instant} {left : Nat}
    {r : Except Halt JoinObservation}
    (h : (joinLoop child started deadline left).Plays c j r c') :
    Joining j ∧ j.kernel ≠ [] ∧
      ((∃ observed, r = .ok observed ∧ Finds observed j) ∨
        (∃ halt, r = .error halt) ∧ ¬ j.ReadZero) := by
  induction left generalizing c j with
  | zero =>
    obtain ⟨j₁, x, c₁, j₂, rfl, hjoin, hkernel, h₁, hlook⟩ := plays_look_bind h
    obtain ⟨observed, rfl, hfinds⟩ | ⟨⟨wait, rfl⟩, hzero⟩ := hlook
    · obtain ⟨rfl, rfl, rfl⟩ := Staged.plays_pure.mp h₁
      rw [List.append_nil]
      exact ⟨hjoin, hkernel, .inl ⟨_, rfl, hfinds⟩⟩
    · obtain ⟨rfl, rfl, rfl⟩ := Step.plays_panic.mp h₁
      exact ⟨by simpa using hjoin, by simpa using hkernel, .inr ⟨⟨_, rfl⟩, by simpa using hzero⟩⟩
  | succ left ih =>
    obtain ⟨j₁, x, c₁, j₂, rfl, hjoin, hkernel, h₁, hlook⟩ := plays_look_bind h
    obtain ⟨observed, rfl, hfinds⟩ | ⟨⟨wait, rfl⟩, hzero⟩ := hlook
    · obtain ⟨rfl, rfl, rfl⟩ := Staged.plays_pure.mp h₁
      rw [List.append_nil]
      exact ⟨hjoin, hkernel, .inl ⟨_, rfl, hfinds⟩⟩
    -- after a look that does not end the join: a wait, and the rest of the loop
    obtain ⟨halt, hwait, rfl⟩ | ⟨j₂, _, c₂, j₃, rfl, hwait, h₂⟩ := Staged.plays_bind.mp h₁
    · obtain ⟨hjoin', hzero'⟩ := plays_awaitOnce hwait
      refine ⟨hjoin.append hjoin', by simp [hkernel], .inr ⟨⟨_, rfl⟩, ?_⟩⟩
      rw [Journal.readZero_append, not_or]
      exact ⟨hzero, hzero'⟩
    · obtain ⟨hjoin', hzero'⟩ := plays_awaitOnce hwait
      obtain ⟨hrest, -, hr⟩ := ih h₂
      refine ⟨hjoin.append (hjoin'.append hrest), by simp [hkernel], ?_⟩
      obtain ⟨observed, rfl, hfinds⟩ | ⟨hhalt, hzero''⟩ := hr
      · exact .inl ⟨observed, rfl, (hfinds.append hzero').append hzero⟩
      · refine .inr ⟨hhalt, ?_⟩
        simp [Journal.readZero_append, hzero, hzero', hzero'']

theorem plays_join {timeout : Duration} {child : Child} (hchild : c.child = some child)
    {r : Except Halt JoinObservation} (h : (joinProbe timeout).invoke.Plays c j r c') :
    Joining j ∧ (j.kernel = [] → c' = c ∧ ∃ halt, r = .error halt) ∧
      ((∃ observed, r = .ok observed ∧ Finds observed j) ∨
        (∃ halt, r = .error halt) ∧ ¬ j.ReadZero) := by
  change Staged.Plays (get >>= _) c j r c' at h
  rw [Staged.plays_get_bind, hchild] at h
  obtain ⟨started, j₁, rfl, h₁⟩ := Step.plays_clock_bind.mp h
  cases hdeadline : started.add? timeout with
  | none =>
    simp only [hdeadline] at h₁
    obtain ⟨rfl, rfl, rfl⟩ := Step.plays_panic.mp h₁
    exact ⟨⟨rfl, by simp [Journal.calls_cons, Entry.call?]⟩, fun _ => ⟨rfl, _, rfl⟩,
      .inr ⟨⟨_, rfl⟩, by simp⟩⟩
  | some deadline =>
    simp only [hdeadline] at h₁
    obtain ⟨hjoin, hkernel, hr⟩ := plays_joinLoop h₁
    have hclock : ¬ Journal.ReadZero [⟨.clock, started⟩] := by simp
    refine ⟨⟨hjoin.reports, hjoin.calls⟩, fun hnone => absurd hnone hkernel, ?_⟩
    obtain ⟨observed, rfl, hfinds⟩ | ⟨hhalt, hzero⟩ := hr
    · exact .inl ⟨observed, rfl, hfinds.append hclock⟩
    · exact .inr ⟨hhalt, by simpa using hzero⟩

/-- The first thing that a look asks for is the child's word. -/
theorem look_begins {child : Child} {started deadline : Instant} {waits : Nat}
    {r : Except Halt (JoinObservation ⊕ UInt32 × Duration)}
    (h : (look child started deadline waits).Plays c j r c') :
    ∃ (word : UInt32) (j' : Journal), j = ⟨.load ((c.child.map (·.word)).getD 0), word⟩ :: j' := by
  change Staged.Plays (get >>= _) c j r c' at h
  rw [Staged.plays_get_bind] at h
  obtain ⟨word, j', rfl, -⟩ := Step.plays_load_bind.mp h
  exact ⟨word, j', rfl⟩

/-- The loop begins with a look. -/
theorem joinLoop_begins {child : Child} {started deadline : Instant} {left : Nat}
    {r : Except Halt JoinObservation}
    (h : (joinLoop child started deadline left).Plays c j r c') :
    ∃ (word : UInt32) (j' : Journal), j = ⟨.load ((c.child.map (·.word)).getD 0), word⟩ :: j' := by
  cases left
  all_goals
    obtain ⟨_, hlook, -⟩ | ⟨j₁, _, _, j₂, rfl, hlook, -⟩ := Staged.plays_bind.mp h
    · exact look_begins hlook
    · obtain ⟨word, j', rfl⟩ := look_begins hlook
      exact ⟨word, j' ++ j₂, rfl⟩

/-- With a child to join and a deadline in reach, a join begins with the clock and the child's
word. -/
theorem plays_join_begins {timeout : Duration} {child : Child} (hchild : c.child = some child)
    {r : Except Halt JoinObservation} (h : (joinProbe timeout).invoke.Plays c j r c') :
    ∃ started j₁, j = ⟨.clock, started⟩ :: j₁ ∧ (started.add? timeout ≠ none →
      ∃ (word : UInt32) (j₂ : Journal), j₁ = ⟨.load child.word, word⟩ :: j₂) := by
  change Staged.Plays (get >>= _) c j r c' at h
  rw [Staged.plays_get_bind, hchild] at h
  obtain ⟨started, j₁, rfl, hrest⟩ := Step.plays_clock_bind.mp h
  refine ⟨started, j₁, rfl, fun hreach => ?_⟩
  obtain ⟨deadline, hdeadline⟩ := Option.ne_none_iff_exists'.mp hreach
  simp only [hdeadline] at hrest
  obtain ⟨word, j₂, heq⟩ := joinLoop_begins hrest
  rw [hchild] at heq
  exact ⟨word, j₂, heq⟩

theorem join_begins {timeout : Duration} {child : Child} (hchild : c.child = some child)
    (h : (joinProbe timeout).Course c j r exam) :
    ∃ started j₁, j = ⟨.clock, started⟩ :: j₁ ∧ (started.add? timeout ≠ none →
      ∃ (word : UInt32) (j₂ : Journal), j₁ = ⟨.load child.word, word⟩ :: j₂) := by
  cases h with
  | setupHalts setup =>
    obtain ⟨-, -, ⟨hnone, -⟩ | ⟨-, heq⟩⟩ := Step.plays_fail_if setup
    · simp [hchild] at hnone
    · cases heq
  | tested setup test =>
    obtain ⟨rfl, rfl, -⟩ := Step.plays_fail_if setup
    cases test with
    | halts invoke => exact plays_join_begins hchild invoke
    | judged invoke check => exact plays_join_begins hchild invoke

/-- The child is let go if and only if it was found gone. -/
theorem eval_checkJoin {timeout : Duration} {observed : JoinObservation}
    (h : ((joinProbe timeout).check observed).eval ⟨c, .empty⟩ = (r, exam)) :
    r = .ok () ↔ observed.joined = true := by
  simp only [joinProbe, Judge.eval_bind, Judge.eval_noteInt, Judge.eval_noteNat, Judge.eval_ite,
    Judge.eval_refute, Judge.eval_update] at h
  by_cases hjoined : observed.joined = true
  · rw [if_neg (by simp [hjoined])] at h
    cases h
    simp [hjoined]
  · rw [if_pos (by simp [hjoined])] at h
    cases h
    simp [hjoined]

theorem join_course {timeout : Duration} (h : (joinProbe timeout).Course c j r exam) :
    Joining j ∧ (j.kernel = [] → exam.context = c) ∧ (c.child = none → r ≠ .ok ()) ∧
      (r = .ok () ↔ j.ReadZero) := by
  cases h with
  | setupHalts setup =>
    obtain ⟨rfl, rfl, -⟩ := Step.plays_fail_if setup
    exact ⟨⟨rfl, by simp⟩, fun _ => rfl, by simp, by simp⟩
  | tested setup test =>
    obtain ⟨rfl, rfl, ⟨-, heq⟩ | ⟨hchild, -⟩⟩ := Step.plays_fail_if setup
    · cases heq
    obtain ⟨child, hchild⟩ := Option.ne_none_iff_exists'.mp (by simpa using hchild)
    cases test with
    | halts invoke =>
      obtain ⟨hjoin, hidle, ⟨_, heq, -⟩ | ⟨-, hzero⟩⟩ := plays_join hchild invoke
      · cases heq
      · exact ⟨hjoin, fun hnone => (hidle hnone).1, by simp, by simpa using hzero⟩
    | judged invoke check =>
      obtain ⟨hjoin, hidle, ⟨_, heq, hfinds⟩ | ⟨⟨_, heq⟩, -⟩⟩ := plays_join hchild invoke
      · cases heq
        refine ⟨hjoin, fun hnone => ?_, by simp [hchild],
          (eval_checkJoin check).trans hfinds.joined⟩
        obtain ⟨-, _, heq⟩ := hidle hnone
        cases heq
      · cases heq

/-! ## The teardown -/

/-- The log event for a child that is given up. -/
def leakWarning (child : Child) : LogEvent where
  level := .warn
  target := logTarget
  message := "Clone child never confirmed exit, leaking its stack"
  fields := [("tid", .int child.tid.toInt)]

/-- Without a tracked child the teardown has nothing to do. Otherwise the child's word is read; the
child is freed if it reads 0, and else given up with a warning. -/
theorem plays_teardown (h : teardown.Plays c j r c') : r = .ok () ∧
    ((c.child = none ∧ j = [] ∧ c' = c) ∨ ∃ child word, c.child = some child ∧
      ((word = 0 ∧ j = [⟨.load child.word, word⟩] ∧ c' = { c with child := none }) ∨
        word ≠ 0 ∧ j = [⟨.load child.word, word⟩, ⟨.log (leakWarning child), ()⟩] ∧
          c' = { c with child := none, abandoned := { child with word } :: c.abandoned })) := by
  change Staged.Plays (get >>= _) c j r c' at h
  rw [Staged.plays_get_bind] at h
  cases hchild : c.child with
  | none =>
    rw [hchild] at h
    obtain ⟨rfl, rfl, rfl⟩ := Staged.plays_pure.mp h
    exact ⟨rfl, .inl ⟨rfl, rfl, rfl⟩⟩
  | some child =>
    rw [hchild] at h
    obtain ⟨word, j₁, rfl, h₁⟩ := Step.plays_load_bind.mp h
    split at h₁
    next hexited =>
      obtain ⟨rfl, rfl, rfl⟩ := Staged.plays_modify.mp h₁
      exact ⟨rfl, .inr ⟨child, word, rfl, .inl ⟨Child.hasExited_iff.mp hexited, rfl, rfl⟩⟩⟩
    next hexited =>
      have hword : word ≠ 0 := fun h => hexited (Child.hasExited_iff.mpr h)
      obtain ⟨j₂, rfl, h₂⟩ := Step.plays_log_bind.mp h₁
      obtain ⟨rfl, rfl, rfl⟩ := Staged.plays_modify.mp h₂
      exact ⟨rfl, .inr ⟨child, word, rfl, .inr ⟨hword, rfl, rfl⟩⟩⟩

/-- The teardown makes no call and reports nothing. -/
theorem teardown_silent (h : teardown.Plays c j r c') : j.trace = [] ∧ j.reports = [] := by
  obtain ⟨-, ⟨-, rfl, -⟩ | ⟨child, word, -, ⟨-, rfl, -⟩ | ⟨-, rfl, -⟩⟩⟩ := plays_teardown h <;>
    exact ⟨rfl, rfl⟩

end KernelProbe.Concurrency
