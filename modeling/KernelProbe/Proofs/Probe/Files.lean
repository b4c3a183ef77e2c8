import Mathlib.Logic.Basic
import KernelProbe.Probe.Files
import KernelProbe.Proofs.Probe.Course

/-!
# The courses of the file probes

For each probe, and for the teardown of the group, everything that it can go through: what it asks,
what becomes of the descriptors that the probes share, and when it comes to its end.
-/

namespace KernelProbe.Files

variable {c c' : Context} {j : Journal} {r : Except Halt Unit} {exam : Exam Context}

/-! ## Opening -/

theorem eval_checkDescriptor {fd : Int32} {exam exam' : Exam Context}
    (h : (checkDescriptor fd).eval exam = (r, exam')) :
    exam'.context = exam.context ∧ (0 ≤ fd ∧ r = .ok () ∨ ¬ 0 ≤ fd ∧ ∃ halt, r = .error halt) := by
  simp only [checkDescriptor, Judge.eval_bind, Judge.eval_noteInt, Judge.eval_ite,
    Judge.eval_refute, Judge.eval_pure] at h
  by_cases hfd : fd < 0
  · rw [if_pos hfd] at h
    cases h
    exact ⟨rfl, .inr ⟨Int32.not_le.mpr hfd, _, rfl⟩⟩
  · rw [if_neg hfd] at h
    cases h
    exact ⟨rfl, .inl ⟨Int32.not_lt.mp hfd, rfl⟩⟩

/-- An opened descriptor is kept to be closed, and read from unless it is negative. -/
theorem eval_checkOpen {path : CText} {fd : Int32}
    (h : ((openProbe path).check fd).eval ⟨c, .empty⟩ = (r, exam)) :
    (r = .ok () ↔ 0 ≤ fd) ∧
      exam.context = ⟨c.fds ++ [fd], if 0 ≤ fd then some fd else c.readFd⟩ := by
  simp only [openProbe, Judge.eval_bind, Judge.eval_update] at h
  cases hcheck : (checkDescriptor fd).eval ⟨c.keep fd, .empty⟩ with
  | mk r' exam' =>
    rw [hcheck] at h
    obtain ⟨hcontext, ⟨hfd, rfl⟩ | ⟨hfd, _, rfl⟩⟩ := eval_checkDescriptor hcheck
    · cases h
      simp [hfd, hcontext, Context.keep]
    · cases h
      simp [hfd, hcontext, Context.keep]

theorem open_course {path : CText} (h : (openProbe path).Course c j r exam) :
    (∃ known, j = [⟨.supports .openFile, known⟩] ∧ known ≠ .ok true ∧ r ≠ .ok () ∧
        exam.context = c) ∨
      ∃ reply, j = [⟨.supports .openFile, .ok true⟩,
          ⟨.call (.openFile path createFlag createMode), reply⟩] ∧
        ((∃ fd, reply.returned = .value fd ∧ (r = .ok () ↔ 0 ≤ fd) ∧
            exam.context = ⟨c.fds ++ [fd], if 0 ≤ fd then some fd else c.readFd⟩) ∨
          (∀ fd, reply.returned ≠ .value fd) ∧ r ≠ .ok () ∧ exam.context = c) := by
  cases h with
  | setupHalts setup =>
    obtain ⟨known, rfl, hknown, rfl⟩ := Step.plays_unless_supports setup
    exact .inl ⟨known, rfl, by simpa using hknown, by simp, rfl⟩
  | tested setup test =>
    obtain ⟨known, rfl, hknown, rfl⟩ := Step.plays_unless_supports setup
    obtain rfl := hknown.mp rfl
    obtain ⟨reply, rfl, ⟨fd, hret, hcheck⟩ | ⟨hret, hr, rfl⟩⟩ :=
      test.of_call (.openFile path createFlag createMode) rfl
    · exact .inr ⟨reply, rfl, .inl ⟨fd, hret, eval_checkOpen hcheck⟩⟩
    · exact .inr ⟨reply, rfl, .inr ⟨hret, hr, rfl⟩⟩

theorem plays_openAt {dirfd : Int32} {path : CText} {r : Except Halt Int32}
    (h : (openAtProbe dirfd path).invoke.Plays c j r c') :
    c' = c ∧ ∃ reply, j = [⟨.call (.openAt dirfd path createFlag createMode), reply⟩] ∧
      ((∃ fd, reply.returned = .value fd ∧ r = .ok fd) ∨
        (∀ fd, reply.returned ≠ .value fd) ∧ ∃ halt, r = .error halt) := by
  obtain ⟨reply, ⟨fault, hret, rfl, rfl, rfl⟩ | ⟨e | fd, j, hx, rfl, h₁⟩⟩ :=
    Step.plays_attempt_bind.mp h
  · exact ⟨rfl, reply, rfl, .inr ⟨by simp [hret], _, rfl⟩⟩
  · have hret := Returned.attempted_eq_failed.mp hx
    by_cases he : e.errno = .ebadf
    all_goals
      simp only [he, if_true, if_false, Step.plays_fail] at h₁
      obtain ⟨rfl, rfl, rfl⟩ := h₁
      exact ⟨rfl, reply, rfl, .inr ⟨by simp [hret], _, rfl⟩⟩
  · obtain ⟨rfl, rfl, rfl⟩ := Staged.plays_pure.mp h₁
    exact ⟨rfl, reply, rfl, .inl ⟨fd, Returned.attempted_eq_ok.mp hx, rfl⟩⟩

theorem openAt_course {dirfd : Int32} {path : CText}
    (h : (openAtProbe dirfd path).Course c j r exam) :
    ∃ reply, j = [⟨.call (.openAt dirfd path createFlag createMode), reply⟩] ∧
      ((∃ fd, reply.returned = .value fd ∧ (r = .ok () ↔ 0 ≤ fd) ∧ exam.context = c.keep fd) ∨
        (∀ fd, reply.returned ≠ .value fd) ∧ r ≠ .ok () ∧ exam.context = c) := by
  cases h.test rfl with
  | halts invoke =>
    obtain ⟨rfl, reply, rfl, ⟨fd, -, heq⟩ | ⟨hret, -⟩⟩ := plays_openAt invoke
    · cases heq
    · exact ⟨reply, rfl, .inr ⟨hret, by simp, rfl⟩⟩
  | judged invoke check =>
    obtain ⟨rfl, reply, rfl, ⟨fd, hret, heq⟩ | ⟨-, _, heq⟩⟩ := plays_openAt invoke
    · cases heq
      refine ⟨reply, rfl, .inl ⟨_, hret, ?_⟩⟩
      simp only [openAtProbe, Judge.eval_bind, Judge.eval_update, Judge.eval_noteInt] at check
      obtain ⟨hcontext, ⟨hfd, rfl⟩ | ⟨hfd, _, rfl⟩⟩ := eval_checkDescriptor check
      · simp [hfd, hcontext]
      · simp [hfd, hcontext]
    · cases heq

/-! ## Reading -/

/-- The call that opens the target of the read probe. -/
abbrev openTarget (path : CText) : Call := .openAt workingDirectory path 0 0

/-- The target is opened if no descriptor is at hand. -/
theorem plays_openTarget {path : CText} (h : (readProbe path).setup.Plays c j r c') :
    (j = [] ∧ r = .ok () ∧ c' = c ∧ c.readFd ≠ none) ∨
      c.readFd = none ∧ ∃ reply, j = [⟨.call (openTarget path), reply⟩] ∧
        ((∃ fd, reply.returned = .value fd ∧ r = .ok () ∧ c' = ⟨c.fds ++ [fd], some fd⟩) ∨
          (∀ fd, reply.returned ≠ .value fd) ∧ r ≠ .ok () ∧ c' = c) := by
  change Staged.Plays (get >>= _) c j r c' at h
  rw [Staged.plays_get_bind] at h
  split at h
  next hopen =>
    refine .inr ⟨by simpa using hopen, ?_⟩
    obtain ⟨reply, ⟨halt, hret, rfl, rfl, rfl⟩ | ⟨fd, j, hret, rfl, h₁⟩⟩ :=
      Step.plays_need_bind.mp h
    · exact ⟨reply, rfl, .inr ⟨Returned.ne_value_of_orHalt hret, by simp, rfl⟩⟩
    · obtain ⟨rfl, rfl, rfl⟩ := Staged.plays_modify.mp h₁
      exact ⟨reply, rfl, .inl ⟨fd, hret, rfl, rfl⟩⟩
  next hskip =>
    obtain ⟨rfl, rfl, rfl⟩ := Staged.plays_pure.mp h
    exact .inl ⟨rfl, rfl, rfl, by simpa using hskip⟩

/-- The read goes to the descriptor at hand. -/
theorem plays_read {path : CText} {fd : Int32} (hfd : c.readFd = some fd) {r : Except Halt UInt64}
    (h : (readProbe path).invoke.Plays c j r c') :
    c' = c ∧ ∃ reply, j = [⟨.call (.read fd 2), reply⟩] ∧
      ((∃ data, reply.returned = .value data ∧ r = .ok data.count) ∨
        (∀ data, reply.returned ≠ .value data) ∧ ∃ halt, r = .error halt) := by
  change Staged.Plays (get >>= _) c j r c' at h
  rw [Staged.plays_get_bind, hfd] at h
  obtain ⟨reply, ⟨halt, hret, rfl, rfl, rfl⟩ | ⟨data, j, hret, rfl, h₁⟩⟩ :=
    Step.plays_call_bind.mp h
  · exact ⟨rfl, reply, rfl, .inr ⟨Returned.ne_value_of_orHalt hret, halt, rfl⟩⟩
  · obtain ⟨rfl, rfl, rfl⟩ := Staged.plays_pure.mp h₁
    exact ⟨rfl, reply, rfl, .inl ⟨data, hret, rfl⟩⟩

theorem eval_checkRead {path : CText} {n : UInt64}
    (h : ((readProbe path).check n).eval ⟨c, .empty⟩ = (r, exam)) :
    exam.context = c ∧ (r = .ok () ↔ n = 0) := by
  simp only [readProbe, Judge.eval_bind, Judge.eval_noteNat, Judge.eval_ite, Judge.eval_refute,
    Judge.eval_pure] at h
  by_cases hn : n = 0
  · rw [if_neg (by simp [hn])] at h
    cases h
    simp [hn]
  · rw [if_pos (by simp [hn])] at h
    cases h
    simp [hn]

/-- With a descriptor at hand, the read probe makes one read and passes at the end of the file. -/
theorem read_test {path : CText} {fd : Int32} (hfd : c.readFd = some fd)
    (h : (readProbe path).Test c j r exam) :
    exam.context = c ∧ ∃ reply, j = [⟨.call (.read fd 2), reply⟩] ∧
      (r = .ok () ↔ ∃ data, reply.returned = .value data ∧ data.count = 0) := by
  cases h with
  | halts invoke =>
    obtain ⟨rfl, reply, rfl, ⟨data, -, heq⟩ | ⟨hret, -⟩⟩ := plays_read hfd invoke
    · cases heq
    · exact ⟨rfl, reply, rfl, by simp [hret]⟩
  | judged invoke check =>
    obtain ⟨rfl, reply, rfl, ⟨data, hret, heq⟩ | ⟨-, _, heq⟩⟩ := plays_read hfd invoke
    · cases heq
      obtain ⟨hcontext, hr⟩ := eval_checkRead check
      exact ⟨hcontext, reply, rfl, by simp [hr, hret]⟩
    · cases heq

theorem read_course {path : CText} (h : (readProbe path).Course c j r exam) :
    (c.readFd = none ∧ exam.context = c ∧ r ≠ .ok () ∧
        ∃ reply, j = [⟨.call (openTarget path), reply⟩] ∧ ∀ fd, reply.returned ≠ .value fd) ∨
      ∃ fetch fd reply, j = fetch ++ [⟨.call (.read fd 2), reply⟩] ∧
        ((fetch = [] ∧ c.readFd = some fd ∧ exam.context = c) ∨
          c.readFd = none ∧ ∃ reply₀, fetch = [⟨.call (openTarget path), reply₀⟩] ∧
            reply₀.returned = .value fd ∧ exam.context = ⟨c.fds ++ [fd], some fd⟩) ∧
        (r = .ok () ↔ ∃ data, reply.returned = .value data ∧ data.count = 0) := by
  cases h with
  | setupHalts setup =>
    obtain ⟨-, heq, -⟩ | ⟨hfd, reply, rfl, ⟨_, _, heq, _⟩ | ⟨hret, -, rfl⟩⟩ :=
      plays_openTarget setup
    · cases heq
    · cases heq
    · exact .inl ⟨hfd, rfl, by simp, reply, rfl, hret⟩
  | tested setup test =>
    obtain ⟨rfl, -, rfl, hfd⟩ | ⟨hfd, reply₀, rfl, ⟨fd, hret₀, -, rfl⟩ | ⟨-, hr, -⟩⟩ :=
      plays_openTarget setup
    · obtain ⟨fd, hfd⟩ := Option.ne_none_iff_exists'.mp hfd
      obtain ⟨hcontext, reply, rfl, hr⟩ := read_test hfd test
      exact .inr ⟨[], fd, reply, rfl, .inl ⟨rfl, hfd, hcontext⟩, hr⟩
    · obtain ⟨hcontext, reply, rfl, hr⟩ := read_test rfl test
      exact .inr ⟨_, fd, reply, rfl, .inr ⟨hfd, reply₀, rfl, hret₀, hcontext⟩, hr⟩
    · exact absurd rfl hr

/-! ## Closing -/

/-- A close and its reply. -/
def closing (x : Int32 × Reply Unit) : Entry := ⟨.call (.close x.1), x.2⟩

/-- The close probe closes from the back of the list, and each descriptor leaves the context before
it is closed. -/
theorem plays_closeAll {fds : List Int32} (hfds : c.fds = fds.reverse)
    (h : (closeAll fds).Plays c j r c') :
    ∃ (closed : List (Int32 × Reply Unit)) (left : List Int32),
      fds = closed.map Prod.fst ++ left ∧ j = closed.map closing ∧
      c' = { c with fds := left.reverse } ∧
      ((r = .ok () ∧ left = [] ∧ ∀ x ∈ closed, x.2.returned = .value ()) ∨
        r ≠ .ok () ∧ ∃ x ∈ closed, x.2.returned ≠ .value ()) := by
  induction fds generalizing c j with
  | nil =>
    obtain ⟨rfl, rfl, rfl⟩ := Staged.plays_pure.mp h
    exact ⟨[], [], rfl, rfl, by rw [← hfds], .inl ⟨rfl, rfl, by simp⟩⟩
  | cons fd fds ih =>
    -- the first of the reversed list is the last of the context's
    have hlast : c.fds.dropLast = fds.reverse := by rw [hfds]; simp
    unfold closeAll at h
    replace h := Staged.plays_modify_bind.mp h
    obtain ⟨reply, ⟨halt, hret, rfl, rfl, rfl⟩ | ⟨⟨⟩, j, hret, rfl, h₁⟩⟩ :=
      Step.plays_call_bind.mp h
    · refine ⟨[(fd, reply)], fds, rfl, rfl, by rw [hlast], .inr ⟨by simp, ?_⟩⟩
      exact ⟨(fd, reply), List.mem_singleton_self _, Returned.ne_value_of_orHalt hret ()⟩
    · obtain ⟨closed, left, rfl, rfl, rfl, hr⟩ := ih hlast h₁
      refine ⟨(fd, reply) :: closed, left, rfl, rfl, rfl, ?_⟩
      simpa [hret] using hr

theorem plays_close {r : Except Halt (List Int32)} (h : closeProbe.invoke.Plays c j r c') :
    ∃ (closed : List (Int32 × Reply Unit)) (left : List Int32),
      c.fds.reverse = closed.map Prod.fst ++ left ∧ j = closed.map closing ∧ c'.fds = left.reverse ∧
      ((∃ fds, r = .ok fds) ∧ left = [] ∧ (∀ x ∈ closed, x.2.returned = .value ()) ∨
        (∃ halt, r = .error halt) ∧ ∃ x ∈ closed, x.2.returned ≠ .value ()) := by
  change Staged.Plays (get >>= _) c j r c' at h
  rw [Staged.plays_get_bind] at h
  have hfds : c.fds = c.fds.reverse.reverse := (List.reverse_reverse c.fds).symm
  obtain ⟨halt, hall, rfl⟩ | ⟨j, ⟨⟩, c₁, _, rfl, hall, hrest⟩ := Staged.plays_bind.mp h
  · obtain ⟨closed, left, hclosed, rfl, rfl, ⟨heq, -⟩ | ⟨-, hbad⟩⟩ := plays_closeAll hfds hall
    · cases heq
    · exact ⟨closed, left, hclosed, rfl, rfl, .inr ⟨⟨halt, rfl⟩, hbad⟩⟩
  · obtain ⟨closed, left, hclosed, rfl, rfl, ⟨-, hleft, hgood⟩ | ⟨hr, -⟩⟩ :=
      plays_closeAll hfds hall
    · have hpure := Staged.plays_modify_bind.mp hrest
      obtain ⟨rfl, rfl, rfl⟩ := Staged.plays_pure.mp hpure
      exact ⟨closed, left, hclosed, by simp, rfl, .inl ⟨⟨_, rfl⟩, hleft, hgood⟩⟩
    · exact absurd rfl hr

/-- The close probe needs a descriptor to close, and passes if every close succeeds. -/
theorem close_course (h : closeProbe.Course c j r exam) :
    (c.fds = [] ∧ j = [] ∧ r ≠ .ok () ∧ exam.context = c) ∨
      c.fds ≠ [] ∧ ∃ (closed : List (Int32 × Reply Unit)) (left : List Int32),
        closed ≠ [] ∧ c.fds.reverse = closed.map Prod.fst ++ left ∧ j = closed.map closing ∧
        exam.context.fds = left.reverse ∧
        (r = .ok () ↔ ∀ x ∈ closed, x.2.returned = .value ()) := by
  cases h with
  | setupHalts setup =>
    obtain ⟨rfl, rfl, ⟨hfds, -⟩ | ⟨-, heq⟩⟩ := Step.plays_fail_if setup
    · exact .inl ⟨by simpa using hfds, rfl, by simp, rfl⟩
    · cases heq
  | tested setup test =>
    obtain ⟨rfl, rfl, ⟨-, heq⟩ | ⟨hfds, -⟩⟩ := Step.plays_fail_if setup
    · cases heq
    refine .inr ⟨by simpa using hfds, ?_⟩
    cases test with
    | halts invoke =>
      obtain ⟨closed, left, hclosed, rfl, hleft, ⟨⟨_, heq⟩, -⟩ | ⟨-, x, hx, hbad⟩⟩ :=
        plays_close invoke
      · cases heq
      · exact ⟨closed, left, List.ne_nil_of_mem hx, hclosed, rfl, hleft,
          by simpa using ⟨x.1, x.2, hx, hbad⟩⟩
    | judged invoke check =>
      obtain ⟨closed, left, hclosed, rfl, hleft, ⟨-, rfl, hgood⟩ | ⟨⟨_, heq⟩, -⟩⟩ :=
        plays_close invoke
      · cases check
        have hne : closed ≠ [] := by
          rintro rfl
          exact hfds (by simpa using hclosed)
        exact ⟨closed, [], hne, hclosed, rfl, hleft, by simpa using hgood⟩
      · cases heq

/-! ## The teardown -/

/-- The teardown closes what is left from the front of the list, up to a close that gives up. -/
theorem plays_teardown (h : teardown.Plays c j r c') :
    c' = { c with fds := [] } ∧ j.reports = [] ∧
      ((r = .ok () ∧ j.calls = c.fds.map .close ∧ ∀ x ∈ j.trace, ¬ x.Panicked) ∨
        ∃ done fd rest before last, r ≠ .ok () ∧ c.fds = done ++ fd :: rest ∧
          j.trace = before ++ [last] ∧ before.map (·.call) = done.map .close ∧
          last.call = .close fd ∧ last.Panicked ∧ ∀ x ∈ before, ¬ x.Panicked) := by
  change Staged.Plays (get >>= _) c j r c' at h
  rw [Staged.plays_get_bind] at h
  exact Step.plays_inTurn rfl (fun _ _ => rfl) (fun _ _ _ => rfl) (fun _ _ _ => rfl)
    (Staged.plays_modify_bind.mp h)

/-- The teardown makes no calls but closes. -/
theorem teardown_calls (h : teardown.Plays c j r c') : ∀ x ∈ j.calls, ∃ fd, x = .close fd := by
  intro x hx
  obtain ⟨-, -, ⟨-, hcalls, -⟩ | ⟨done, fd, _, before, last, -, -, htrace, hbefore, hlast, -⟩⟩ :=
    plays_teardown h
  · rw [hcalls] at hx
    obtain ⟨fd, -, rfl⟩ := List.mem_map.mp hx
    exact ⟨fd, rfl⟩
  · rw [← Journal.map_call_trace, htrace, List.map_append, hbefore, List.map_singleton, hlast,
      ← List.map_singleton, ← List.map_append] at hx
    obtain ⟨fd, -, rfl⟩ := List.mem_map.mp hx
    exact ⟨fd, rfl⟩

end KernelProbe.Files
