import KernelProbe.Kernel.Scripted
import KernelProbe.Proofs.Probe.Containment
import KernelProbe.Proofs.Probe.Custody
import KernelProbe.Proofs.Probe.Wording

/-!
# The protocol of a join

A join looks at the child's word and at the clock, and waits in between. `Round` is a look that did
not end it with the wait behind it, `Ending` what can come after the rounds: a look that ends the
join, a yield that fails, or a wait too many for the counter. `Concluded` is what a probe makes of
the ending.

`join_protocol` says that a run of the join is such rounds and an ending on every kernel whose clock
does not go back, whatever it lets the word be and however its calls come back.
-/

namespace KernelProbe

theorem Journal.waits_seen (j : Journal) : j.seen.waits = j.waits := by
  rw [waits, calls_eq_of_kernel j.kernel_seen, waits]

theorem Instant.nanos_add {start stop : Instant} {d : Duration} (h : start.add? d = some stop) :
    stop.nanos = start.nanos + d.nanos := by
  simp only [add?, Option.ite_none_right_eq_some, Option.some.injEq] at h
  rw [← h.2]

/-- A run of a probe without a cleanup shows it what its lifecycle sees. -/
theorem Probe.plays_run_seen {C Obs : Type} {p : Probe C Obs} (hp : p.cleanup = pure ()) {c c' : C}
    {j : Journal} {o : Outcome} {evidence : Evidence} (h : (p.run c).Plays j ((o, evidence), c')) :
    ∃ own life, p.Course c own life ⟨c', evidence⟩ ∧ o = verdict life (.ok ()) ∧
      own.seen = j.seen := by
  obtain ⟨own, logs, life, rfl, hcourse, houtcome, hlogs⟩ := plays_run_of_no_cleanup hp h
  exact ⟨own, life, hcourse, houtcome, by simp [hlogs.seen]⟩

namespace Concurrency

variable {c c' : Context} {child : Child} {timeout : Duration} {started deadline : Instant}
  {j : Journal}

/-! ## The protocol -/

/-- The errors of a wait after which it is time to look again. -/
def retries : List Errno := [.eagain, .eintr, .etimedout]

/-- What a join needs of its surroundings. -/
structure Schedule (timeout : Duration) (started deadline : Instant) (j : Journal) : Prop where
  /-- The join starts at the first reading of the clock. -/
  begins : j.readings.head? = some started
  /-- The clock can tell the deadline. -/
  reach : started.add? timeout = some deadline
  /-- The clock does not go back. -/
  rising : j.readings.Pairwise (·.nanos ≤ ·.nanos)
  /-- Every call comes back, with a value or an error. -/
  calm : ∀ x ∈ j.trace, ¬x.Panicked

/-- A look that does not end a join, and the wait behind it. -/
structure Round where
  /-- What the word held when last seen. -/
  last : UInt32
  /-- What it holds. -/
  word : UInt32
  /-- The time of the look. -/
  now : Instant
  /-- The reply to the wait. -/
  wait : Reply Int64
  /-- The reply to the yield behind the wait, if there is one. -/
  yielded : Option (Reply Unit)

namespace Round

/-- What a join sees of a round: it waits for as long as the deadline is away, on the word that it
just read. -/
def seen (deadline : Instant) (t : Round) : Journal :=
  [⟨.load t.last, t.word⟩, ⟨.clock, t.now⟩,
    ⟨.call (.futexWait t.word t.word (some (deadline.since t.now))), t.wait⟩] ++
  t.yielded.toList.map fun reply => ⟨.call .schedYield, reply⟩

/-- The join goes on behind the round: there is no yield, or it does not fail. -/
def GoesOn (t : Round) : Prop := ∀ reply ∈ t.yielded, reply.returned = .value ()

/-- The round is as the protocol has it. -/
structure Proper (timeout : Duration) (deadline : Instant) (t : Round) : Prop where
  /-- The child is still there. -/
  word_ne_zero : t.word ≠ 0
  /-- There is time left. -/
  wait_pos : 0 < (deadline.since t.now).nanos
  /-- A wait takes no longer than the join may. -/
  wait_le : (deadline.since t.now).nanos ≤ timeout.nanos
  /-- The processor is given up if the wait fails for a reason that waiting does not mend. -/
  yields : t.yielded.isSome = true ↔ ∃ e, t.wait.returned = .failed e ∧ e.errno ∉ retries

end Round

/-- What comes after the rounds of a join, and what the join makes of it. -/
inductive Ending (child : Child) (started deadline : Instant) (rounds : List Round) :
    Journal → Except Halt JoinObservation → Prop
  /-- A look finds the word at 0 or the deadline passed. -/
  | over {last word : UInt32} {now ended : Instant} {observed : JoinObservation}
      (steady : ∀ t ∈ rounds, t.GoesOn) (stops : word = 0 ∨ deadline.nanos ≤ now.nanos)
      (tid : observed.tid = child.tid) (joined : observed.joined = true ↔ word = 0)
      (waits : observed.waits.toNat = rounds.length)
      (elapsed : observed.elapsed = ended.since started) :
      Ending child started deadline rounds
        [⟨.load last, word⟩, ⟨.clock, now⟩, ⟨.clock, ended⟩] (.ok observed)
  /-- The yield of the last round fails. -/
  | stranded {before : List Round} {t : Round} {reply : Reply Unit} {e : SyscallError}
      (steady : ∀ t ∈ before, t.GoesOn) (split : rounds = before ++ [t])
      (yielded : t.yielded = some reply) (failed : reply.returned = .failed e) :
      Ending child started deadline rounds [] (.error (.failed (.unexpected e)))
  /-- A look asks for a wait more than the counter can hold. -/
  | exhausted {last word : UInt32} {now : Instant} (steady : ∀ t ∈ rounds, t.GoesOn)
      (wakes : word ≠ 0 ∧ now.nanos < deadline.nanos) (full : rounds.length + 1 = UInt32.size) :
      Ending child started deadline rounds [⟨.load last, word⟩, ⟨.clock, now⟩]
        (.error (.panicked .addOverflow))

/-- The evidence of a join. -/
def JoinObservation.evidence (observed : JoinObservation) : Evidence :=
  ⟨[("child_tid", Text.integer observed.tid.toInt),
    ("waits", Text.decimal observed.waits.toNat),
    ("elapsed_us", Text.decimal observed.elapsed.micros)]⟩

/-- What becomes of the outcome, the evidence and the context when a join ends with a result. -/
inductive Concluded (timeout : Duration) (c : Context) :
    Except Halt JoinObservation → Outcome → Evidence → Context → Prop
  /-- The child is gone, and forgotten. -/
  | joined {observed : JoinObservation} {c' : Context} (found : observed.joined = true)
      (forgotten : custody c' = (none, c.abandoned)) :
      Concluded timeout c (.ok observed) .pass observed.evidence c'
  /-- It was not gone in time, and stays tracked. -/
  | late {observed : JoinObservation} {c' : Context} (found : observed.joined = false)
      (kept : custody c' = custody c) :
      Concluded timeout c (.ok observed)
        (.fail (.of .assertionFailure ("child " ++ Text.integer observed.tid.toInt
          ++ " did not clear its tid word within " ++ timeout.text) none))
        observed.evidence c'
  /-- A call failed, and the child stays tracked. -/
  | failed {e : SyscallError} {c' : Context} (kept : custody c' = custody c) :
      Concluded timeout c (.error (.failed (.unexpected e)))
        (.fail (.of .unexpectedSyscallError e.message (some e.raw))) .empty c'
  /-- The join gave up, and the child stays tracked. -/
  | panicked {fault : Fault} {c' : Context} (kept : custody c' = custody c) :
      Concluded timeout c (.error (.panicked fault)) (.fail (.of .panicked fault.message none))
        .empty c'

/-! ## One look and one wait -/

/-- No call gives up, and the clock shows no time before the start. -/
structure Tame (started : Instant) (j : Journal) : Prop where
  calm : ∀ x ∈ j.trace, ¬x.Panicked
  after : ∀ now, ⟨.clock, now⟩ ∈ j → started.nanos ≤ now.nanos

theorem Tame.sublist {part : Journal} (h : Tame started j) (hpart : part.Sublist j) :
    Tame started part where
  calm x hx := h.calm x ((hpart.filterMap Entry.exchange?).subset hx)
  after now hnow := h.after now (hpart.subset hnow)

theorem isRetry_iff {e : SyscallError} : isRetry e = true ↔ e.errno ∈ retries := by
  simp [isRetry, retries, or_assoc]

/-- A look ends the join, or there is a word to wait on and time left. -/
theorem plays_look_then {waits : Nat}
    {f : JoinObservation ⊕ UInt32 × Duration → Step Context JoinObservation}
    {r : Except Halt JoinObservation}
    (h : Staged.Plays (look child started deadline waits >>= f) c j r c') :
    ∃ (last word : UInt32) (now : Instant) (j' : Journal) (c₁ : Context),
      (∃ ended, (word = 0 ∨ deadline.nanos ≤ now.nanos) ∧
        j = ⟨.load last, word⟩ :: ⟨.clock, now⟩ :: ⟨.clock, ended⟩ :: j' ∧
        Staged.Plays (f (.inl ⟨child.tid, word == 0, UInt32.ofNat waits, ended.since started⟩))
          c₁ j' r c') ∨
      (word ≠ 0 ∧ now.nanos < deadline.nanos ∧ j = ⟨.load last, word⟩ :: ⟨.clock, now⟩ :: j' ∧
        Staged.Plays (f (.inr (word, deadline.since now))) c₁ j' r c') := by
  rw [look, bind_assoc, Staged.plays_get_bind, bind_assoc] at h
  obtain ⟨word, j₁, rfl, h₁⟩ := Step.plays_load_bind.mp h
  rw [bind_assoc, Staged.plays_modify_bind, bind_assoc] at h₁
  obtain ⟨now, j₂, rfl, h₂⟩ := Step.plays_clock_bind.mp h₁
  by_cases hstop : word = 0 ∨ deadline.nanos ≤ now.nanos
  · rw [if_pos hstop, bind_assoc] at h₂
    obtain ⟨ended, j₃, rfl, h₃⟩ := Step.plays_clock_bind.mp h₂
    exact ⟨_, word, now, j₃, _, .inl ⟨ended, hstop, rfl, h₃⟩⟩
  · rw [if_neg hstop] at h₂
    obtain ⟨hword, hnow⟩ := not_or.mp hstop
    exact ⟨_, word, now, j₂, _, .inr ⟨hword, Nat.lt_of_not_le hnow, rfl, h₂⟩⟩

/-- A wait that comes back is followed by one yield if its error asks for more than another look,
and a yield that fails ends the join. -/
theorem plays_awaitOnce_seen {word : UInt32} {remaining : Duration} {r : Except Halt Unit}
    (hcalm : ∀ x ∈ j.trace, ¬x.Panicked) (h : (awaitOnce word remaining).Plays c j r c') :
    ∃ (wait : Reply Int64) (yielded : Option (Reply Unit)),
      j.seen = ⟨.call (.futexWait word word (some remaining)), wait⟩ ::
        yielded.toList.map (fun reply => ⟨.call .schedYield, reply⟩) ∧
      (yielded.isSome = true ↔ ∃ e, wait.returned = .failed e ∧ e.errno ∉ retries) ∧
      ((r = .ok () ∧ ∀ reply ∈ yielded, reply.returned = .value ()) ∨
        ∃ reply e, yielded = some reply ∧ reply.returned = .failed e ∧
          r = .error (.failed (.unexpected e))) := by
  obtain ⟨wait, ⟨fault, hret, rfl, -, -⟩ | ⟨e | v, j₁, hx, rfl, h₁⟩⟩ :=
    Step.plays_attemptStoring_bind.mp h
  · have hwait := hcalm ⟨.futexWait word word (some remaining), wait⟩
    exact absurd ⟨fault, hret⟩ (hwait (by simp [Journal.trace_cons, Entry.exchange?]))
  · rw [Returned.attempted_eq_failed] at hx
    by_cases hretry : isRetry e = true
    · simp only [hretry, if_true] at h₁
      obtain ⟨rfl, rfl, -⟩ := Staged.plays_pure.mp h₁
      refine ⟨wait, none, rfl, ?_, .inl ⟨rfl, by simp⟩⟩
      simp [hx, isRetry_iff.mp hretry]
    · simp only [hretry] at h₁
      obtain ⟨j₂, rfl, h₂⟩ := Step.plays_log_bind.mp h₁
      obtain ⟨reply, rfl, rfl, -⟩ := (Step.plays_call .schedYield).mp h₂
      refine ⟨wait, some reply, rfl, ?_, ?_⟩
      · simp [hx, mt isRetry_iff.mpr hretry]
      · cases hyield : reply.returned with
        | value a => exact .inl ⟨rfl, by simpa using hyield⟩
        | failed e => exact .inr ⟨reply, e, rfl, hyield, rfl⟩
        | panicked fault =>
          have hreply := hcalm ⟨.schedYield, reply⟩
          exact absurd ⟨fault, hyield⟩ (hreply (by simp [Journal.trace_cons, Entry.exchange?]))
  · rw [Returned.attempted_eq_ok] at hx
    obtain ⟨rfl, rfl, -⟩ := Staged.plays_pure.mp h₁
    exact ⟨wait, none, rfl, by simp [hx], .inl ⟨rfl, by simp⟩⟩

/-! ## The loop -/

/-- A look that stops behind a number of rounds is their ending. -/
theorem Ending.of_look {rounds : List Round} {last word : UInt32} {now ended : Instant}
    (hsteady : ∀ t ∈ rounds, t.GoesOn) (hstop : word = 0 ∨ deadline.nanos ≤ now.nanos)
    (hfits : rounds.length ≤ maxWaits) :
    Ending child started deadline rounds [⟨.load last, word⟩, ⟨.clock, now⟩, ⟨.clock, ended⟩]
      (.ok ⟨child.tid, word == 0, UInt32.ofNat rounds.length, ended.since started⟩) := by
  refine .over hsteady hstop rfl (by simp) (UInt32.toNat_ofNat_of_lt' ?_) rfl
  simp only [maxWaits, UInt32.size] at *
  omega

/-- A wait behind a look that does not end the join makes a round with it. -/
theorem plays_round {last word : UInt32} {now : Instant} {r : Except Halt Unit}
    (hword : word ≠ 0) (hnow : now.nanos < deadline.nanos)
    (hreach : deadline.nanos = started.nanos + timeout.nanos)
    (htame : Tame started (⟨.load last, word⟩ :: ⟨.clock, now⟩ :: j))
    (h : (awaitOnce word (deadline.since now)).Plays c j r c') :
    ∃ t : Round, Journal.seen (⟨.load last, word⟩ :: ⟨.clock, now⟩ :: j) = t.seen deadline ∧
      t.Proper timeout deadline ∧
      ((r = .ok () ∧ t.GoesOn) ∨ ∃ reply e, t.yielded = some reply ∧ reply.returned = .failed e ∧
        r = .error (.failed (.unexpected e))) := by
  have hcalm : ∀ x ∈ j.trace, ¬x.Panicked := htame.calm
  obtain ⟨wait, yielded, hseen, hyields, hr⟩ := plays_awaitOnce_seen hcalm h
  have hafter : started.nanos ≤ now.nanos := htame.after now (by simp)
  refine ⟨⟨last, word, now, wait, yielded⟩, ?_, ⟨hword, ?_, ?_, hyields⟩, hr⟩
  · simp [Request.informs, hseen, Round.seen]
  · simp only [Instant.since]
    omega
  · simp only [Instant.since]
    omega

/-- The loop goes through rounds to an ending, behind rounds that it went on from. -/
theorem plays_joinLoop_seen {left : Nat} {before : List Round} {r : Except Halt JoinObservation}
    (hsteady : ∀ t ∈ before, t.GoesOn) (hleft : before.length + left = maxWaits)
    (hreach : deadline.nanos = started.nanos + timeout.nanos) (htame : Tame started j)
    (h : (joinLoop child started deadline left).Plays c j r c') :
    ∃ rounds tail, j.seen = rounds.flatMap (Round.seen deadline) ++ tail ∧
      (∀ t ∈ rounds, t.Proper timeout deadline) ∧
      Ending child started deadline (before ++ rounds) tail r := by
  induction left generalizing before c j with
  | zero =>
    rw [Nat.add_zero] at hleft
    obtain ⟨last, word, now, j, c₁, ⟨ended, hstop, rfl, h₁⟩ | ⟨hword, hnow, rfl, h₁⟩⟩ :=
      plays_look_then h
    · obtain ⟨rfl, rfl, -⟩ := Staged.plays_pure.mp h₁
      refine ⟨[], _, rfl, by simp, ?_⟩
      rw [List.append_nil, ← hleft]
      exact .of_look hsteady hstop hleft.le
    · obtain ⟨rfl, rfl, -⟩ := Step.plays_panic.mp h₁
      refine ⟨[], _, rfl, by simp, ?_⟩
      rw [List.append_nil]
      exact .exhausted hsteady ⟨hword, hnow⟩ (by rw [hleft]; rfl)
  | succ left ih =>
    obtain ⟨last, word, now, j, c₁, ⟨ended, hstop, rfl, h₁⟩ | ⟨hword, hnow, rfl, h₁⟩⟩ :=
      plays_look_then h
    · obtain ⟨rfl, rfl, -⟩ := Staged.plays_pure.mp h₁
      refine ⟨[], _, rfl, by simp, ?_⟩
      rw [List.append_nil, show maxWaits - (left + 1) = before.length by omega]
      exact .of_look hsteady hstop (by omega)
    obtain ⟨halt, hwait, rfl⟩ | ⟨j₁, _, c₂, j₂, rfl, hwait, hrest⟩ := Staged.plays_bind.mp h₁
    -- the wait ends the join only through a yield that fails
    · obtain ⟨t, hseen, hproper, ⟨heq, -⟩ | ⟨reply, e, hyielded, hfailed, heq⟩⟩ :=
        plays_round hword hnow hreach htame hwait
      · cases heq
      · cases heq
        refine ⟨[t], [], by simpa using hseen, by simpa using hproper, ?_⟩
        exact .stranded hsteady rfl hyielded hfailed
    -- a wait that the join goes on from: one round more behind those before
    · rw [← List.cons_append, ← List.cons_append] at htame
      obtain ⟨t, hseen, hproper, ⟨-, hgoes⟩ | ⟨_, _, -, -, heq⟩⟩ :=
        plays_round hword hnow hreach (htame.sublist (List.sublist_append_left ..)) hwait
      · have hsteady' : ∀ t' ∈ before ++ [t], t'.GoesOn := by
          simpa [or_imp, forall_and] using ⟨hsteady, hgoes⟩
        obtain ⟨rounds, tail, hrounds, hall, hending⟩ := ih hsteady'
          (by simp only [List.length_append, List.length_singleton]; omega)
          (htame.sublist (List.sublist_append_right ..)) hrest
        refine ⟨t :: rounds, tail, ?_, by simpa using ⟨hproper, hall⟩, by simpa using hending⟩
        rw [List.flatMap_cons, ← hseen, List.append_assoc, ← hrounds, ← Journal.seen_append]
        rfl
      · cases heq

/-! ## The join -/

theorem Schedule.of_seen {j₁ j₂ : Journal} (h : Schedule timeout started deadline j₁)
    (hseen : j₁.seen = j₂.seen) : Schedule timeout started deadline j₂ where
  begins := by rw [← Journal.readings_eq_of_seen hseen, h.begins]
  reach := h.reach
  rising := by rw [← Journal.readings_eq_of_seen hseen]; exact h.rising
  calm := by rw [← Journal.trace_eq_of_seen hseen]; exact h.calm

/-- With a child to join, the invocation goes through rounds to an ending. -/
theorem plays_join_seen {r : Except Halt JoinObservation} (hchild : c.child = some child)
    (hschedule : Schedule timeout started deadline j)
    (h : (joinProbe timeout).invoke.Plays c j r c') :
    ∃ rounds tail, j.seen = ⟨.clock, started⟩ :: (rounds.flatMap (Round.seen deadline) ++ tail) ∧
      (∀ t ∈ rounds, t.Proper timeout deadline) ∧ Ending child started deadline rounds tail r := by
  change Staged.Plays (get >>= _) c j r c' at h
  rw [Staged.plays_get_bind, hchild] at h
  obtain ⟨first, j, rfl, h₁⟩ := Step.plays_clock_bind.mp h
  obtain rfl : first = started := Option.some.inj hschedule.begins
  simp only [hschedule.reach] at h₁
  have htame : Tame first j := by
    refine ⟨hschedule.calm, fun now hnow => ?_⟩
    exact (List.pairwise_cons.mp hschedule.rising).1 now (Journal.mem_readings.mpr hnow)
  have hnone : ∀ t ∈ ([] : List Round), t.GoesOn := by simp
  obtain ⟨rounds, tail, hseen, hproper, hending⟩ :=
    plays_joinLoop_seen hnone (Nat.zero_add _) (Instant.nanos_add hschedule.reach) htame h₁
  exact ⟨rounds, tail, by simp [Request.informs, hseen], hproper, hending⟩

/-- A join without a child leaves the context as it is and notes nothing. -/
theorem exam_of_untracked {r : Except Halt Unit} {exam : Exam Context} (hfree : c.child = none)
    (h : (joinProbe timeout).Course c j r exam) : exam = ⟨c, .empty⟩ := by
  cases h with
  | setupHalts setup =>
    obtain ⟨-, rfl, -⟩ := Step.plays_fail_if setup
    rfl
  | tested setup test =>
    obtain ⟨-, -, ⟨-, heq⟩ | ⟨hchild, -⟩⟩ := Step.plays_fail_if setup
    · cases heq
    · simp [hfree] at hchild

/-- A join with a child comes to its test. -/
theorem join_test {r : Except Halt Unit} {exam : Exam Context} (hchild : c.child = some child)
    (h : (joinProbe timeout).Course c j r exam) : (joinProbe timeout).Test c j r exam := by
  cases h with
  | setupHalts setup =>
    obtain ⟨-, -, ⟨hnone, -⟩ | ⟨-, heq⟩⟩ := Step.plays_fail_if setup
    · simp [hchild] at hnone
    · cases heq
  | tested setup test =>
    obtain ⟨rfl, rfl, -⟩ := Step.plays_fail_if setup
    exact test

/-- What the check of a join makes of an observation. -/
theorem concluded_of_check {observed : JoinObservation} {r : Except Halt Unit}
    {exam : Exam Context} (hkept : custody c' = custody c)
    (h : ((joinProbe timeout).check observed).eval ⟨c', .empty⟩ = (r, exam)) :
    Concluded timeout c (.ok observed) (Probe.verdict r (.ok ())) exam.evidence exam.context := by
  simp only [joinProbe, Judge.eval_bind, Judge.eval_noteInt, Judge.eval_noteNat, Judge.eval_ite,
    Judge.eval_refute, Judge.eval_update] at h
  by_cases hjoined : observed.joined = true
  · rw [if_neg (by simp [hjoined])] at h
    cases h
    refine .joined hjoined ?_
    exact congrArg (Prod.mk none) (congrArg Prod.snd hkept)
  · rw [if_pos (by simp [hjoined])] at h
    cases h
    exact .late (by simpa using hjoined) hkept

theorem Ending.concluded {rounds : List Round} {tail : Journal} {halt : Halt}
    (hkept : custody c' = custody c)
    (h : Ending child started deadline rounds tail (.error halt)) :
    Concluded timeout c (.error halt) (Probe.verdict (.error halt) (.ok ())) .empty c' := by
  cases h with
  | stranded => exact .failed hkept
  | exhausted => exact .panicked hkept

theorem Round.waits_seen (deadline : Instant) (t : Round) : (t.seen deadline).waits = 1 := by
  obtain ⟨last, word, now, wait, yielded⟩ := t
  cases yielded <;> rfl

theorem waits_rounds (deadline : Instant) (rounds : List Round) :
    Journal.waits (rounds.flatMap (Round.seen deadline)) = rounds.length := by
  induction rounds with
  | nil => rfl
  | cons t rounds ih =>
    rw [List.flatMap_cons, Journal.waits_append, Round.waits_seen, ih, List.length_cons,
      Nat.add_comm]

/-- There is one wait for each round, and none in an ending. -/
theorem Ending.waits {rounds : List Round} {tail : Journal} {r : Except Halt JoinObservation}
    (h : Ending child started deadline rounds tail r)
    (hj : j.seen = ⟨.clock, started⟩ :: (rounds.flatMap (Round.seen deadline) ++ tail)) :
    j.waits = rounds.length := by
  have htail : tail.waits = 0 := by cases h <;> rfl
  calc j.waits = j.seen.waits := (Journal.waits_seen j).symm
    _ = Journal.waits (rounds.flatMap (Round.seen deadline) ++ tail) := by
      rw [hj]
      rfl
    _ = rounds.length := by rw [Journal.waits_append, waits_rounds, htail, Nat.add_zero]

/-- With a child to join, the lifecycle goes through rounds to an ending, and concludes. -/
theorem join_course_seen {r : Except Halt Unit} {exam : Exam Context}
    (hchild : c.child = some child) (hschedule : Schedule timeout started deadline j)
    (h : (joinProbe timeout).Course c j r exam) :
    ∃ (result : Except Halt JoinObservation) (c₁ : Context) (rounds : List Round) (tail : Journal),
      (joinProbe timeout).invoke.Plays c j result c₁ ∧
      j.seen = ⟨.clock, started⟩ :: (rounds.flatMap (Round.seen deadline) ++ tail) ∧
      (∀ t ∈ rounds, t.Proper timeout deadline) ∧ j.waits = rounds.length ∧
      Ending child started deadline rounds tail result ∧
      Concluded timeout c result (Probe.verdict r (.ok ())) exam.evidence exam.context := by
  cases join_test hchild h with
  | halts invoke =>
    obtain ⟨rounds, tail, hseen, hproper, hending⟩ := plays_join_seen hchild hschedule invoke
    exact ⟨_, _, rounds, tail, invoke, hseen, hproper, hending.waits hseen, hending,
      hending.concluded (preserves_join timeout _ _ _ _ invoke)⟩
  | judged invoke check =>
    obtain ⟨rounds, tail, hseen, hproper, hending⟩ := plays_join_seen hchild hschedule invoke
    exact ⟨_, _, rounds, tail, invoke, hseen, hproper, hending.waits hseen, hending,
      concluded_of_check (preserves_join timeout _ _ _ _ invoke) check⟩

variable {κ ρ : Type}

/-- Without a child to join, a join is skipped and asks nothing. With one, on a schedule that tells
the time forwards and lets every call come back, a join is a first reading of the clock, rounds, and
an ending, and concludes as the ending has it. -/
theorem join_protocol (timeout : Duration) (kernel : Kernel κ) (reporter : Reporter ρ) (k : κ)
    (r : ρ) (c : Context) :
    let run := ((joinProbe timeout).run c).run kernel reporter k r
    (c.child = none → run.journal.seen = [] ∧
      run.result = ((.skipped (.of .setupFailure "no clone child to join" none), .empty), c)) ∧
    ∀ child started deadline, c.child = some child →
      Schedule timeout started deadline run.journal →
      ∃ (own : Journal) (result : Except Halt JoinObservation) (c₁ : Context)
        (rounds : List Round) (tail : Journal),
        (joinProbe timeout).invoke.Plays c own result c₁ ∧ own.seen = run.journal.seen ∧
        own.seen = ⟨.clock, started⟩ :: (rounds.flatMap (Round.seen deadline) ++ tail) ∧
        (∀ t ∈ rounds, t.Proper timeout deadline) ∧ run.journal.waits = rounds.length ∧
        Ending child started deadline rounds tail result ∧
        Concluded timeout c result run.result.1.1 run.result.1.2 run.result.2 := by
  intro run
  have hrun : ((joinProbe timeout).run c).Plays run.journal run.result := Program.run_plays ..
  obtain ⟨own, life, hcourse, houtcome, hseen⟩ := Probe.plays_run_seen rfl hrun
  refine ⟨fun hfree => ?_, fun child started deadline hchild hschedule => ?_⟩
  · obtain ⟨rfl, rfl⟩ := join_untracked hfree hcourse
    have hexam := Exam.mk.inj (exam_of_untracked hfree hcourse)
    exact ⟨hseen.symm, Prod.ext (Prod.ext houtcome hexam.2) hexam.1⟩
  · obtain ⟨result, c₁, rounds, tail, hinvoke, hrounds, hproper, hwaits, hending, hconcluded⟩ :=
      join_course_seen hchild (hschedule.of_seen hseen.symm) hcourse
    rw [← houtcome] at hconcluded
    rw [← Journal.waits_seen, hseen, Journal.waits_seen] at hwaits
    exact ⟨own, result, c₁, rounds, tail, hinvoke, hseen, hrounds, hproper, hwaits, hending,
      hconcluded⟩

/-- A kernel that cannot wait and then is interrupted, with the word at 0, lets a join pass in two
rounds. -/
theorem join_protocol_interrupted :
    let child : Child := ⟨101, ⟨0x4000⟩, 101⟩
    let start : ScriptedKernel := { script := [("futex_wait",
      [{ action := .fail .enosys (-1) }, { action := .fail .eintr (-1), store := some 0 }])] }
    let run := ((joinProbe (.ofMillis 50)).run { child := some child }).run
      ScriptedKernel.machine recording start []
    Schedule (.ofMillis 50) ⟨4000000000000⟩ ⟨4000050000000⟩ run.journal ∧
      run.journal.calls.map (·.syscall) = [.futex, .schedYield, .futex] ∧
      run.result.1.1 = .pass ∧
      ∃ result rounds tail, rounds.length = 2 ∧
        Ending child ⟨4000000000000⟩ ⟨4000050000000⟩ rounds tail result ∧
        Concluded (.ofMillis 50) { child := some child } result run.result.1.1 run.result.1.2
          run.result.2 := by
  intro child start run
  have hschedule : Schedule (.ofMillis 50) ⟨4000000000000⟩ ⟨4000050000000⟩ run.journal :=
    ⟨by decide +kernel, by decide +kernel, by decide +kernel, by decide +kernel⟩
  obtain ⟨-, hjoin⟩ := join_protocol (.ofMillis 50) ScriptedKernel.machine recording start []
    { child := some child }
  obtain ⟨-, result, -, rounds, tail, -, -, -, -, hwaits, hending, hconcluded⟩ :=
    hjoin child _ _ rfl hschedule
  have htwo : run.journal.waits = 2 := by decide +kernel
  exact ⟨hschedule, by decide +kernel, by decide +kernel, result, rounds, tail,
    hwaits.symm.trans htwo, hending, hconcluded⟩

end Concurrency

end KernelProbe
