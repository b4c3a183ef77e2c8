import KernelProbe.Probe.Identity
import KernelProbe.Probe.Output
import KernelProbe.Probe.Uname
import KernelProbe.Proofs.Probe.Files
import KernelProbe.Proofs.Probe.JoinProtocol
import KernelProbe.Proofs.Probe.Lifecycle
import KernelProbe.Proofs.Probe.Wording
import KernelProbe.Proofs.Program.Grounds

/-!
# What each probe can be stopped by

`Probe.Founded G p` says that the lifecycle of a probe which meets the errors and faults of the
grounds `G` stops with one of them, if it stops. Most probes pass on what a call returned as they
get it; the wait for a mismatch and the two probes of `execve` judge it first. The residency query
and the join can give up by themselves, for reasons that are then among the grounds.
-/

namespace KernelProbe

variable {G : Grounds}

/-! ## Judgements -/

namespace Judge

variable {C α β : Type}

/-- The judgement stops only for a reason that there may be. -/
def Founded (G : Grounds) (judge : Judge C α) : Prop :=
  ∀ ⦃exam h⦄, (judge.eval exam).1 = .error h → h.Founded G

@[simp] theorem founded_pure (a : α) : Founded G (pure a : Judge C α) := nofun

theorem founded_fail {error : ProbeError} (h : error.Founded G) :
    Founded G (fail error : Judge C α) := by
  rintro exam _ ⟨⟩
  exact h

theorem founded_fail_bind {error : ProbeError} {f : β → Judge C α} (h : error.Founded G) :
    Founded G (fail error >>= f) := by
  rintro exam _ ⟨⟩
  exact h

@[simp] theorem founded_refute (message : String) (observed : Option RawReturn) :
    Founded G (refute message observed : Judge C α) := by
  rintro exam _ ⟨⟩
  trivial

theorem Founded.bind {judge : Judge C α} {f : α → Judge C β} (h : Founded G judge)
    (hf : ∀ a, Founded G (f a)) : Founded G (judge >>= f) := by
  intro exam halt heq
  rw [eval_bind] at heq
  have hjudge := @h exam
  revert hjudge heq
  rcases judge.eval exam with ⟨e | a, exam'⟩ <;> intro heq hjudge
  · cases heq
    exact hjudge rfl
  · exact hf a heq

/-- Nothing follows a refutation. -/
@[simp] theorem founded_refute_bind (message : String) (observed : Option RawReturn)
    (f : β → Judge C α) : Founded G (refute message observed >>= f) := by
  rintro exam _ ⟨⟩
  trivial

@[simp] theorem founded_ite {p : Prop} [Decidable p] {judge other : Judge C α}
    (h : p → Founded G judge) (hother : ¬p → Founded G other) :
    Founded G (if p then judge else other) := by
  split
  next hp => exact h hp
  next hp => exact hother hp

@[simp] theorem founded_note (key value : String) : Founded G (note key value : Judge C Unit) :=
  nofun

@[simp] theorem founded_noteNat (key : String) (n : Nat) :
    Founded G (noteNat key n : Judge C Unit) := nofun

@[simp] theorem founded_noteInt (key : String) (i : Int) :
    Founded G (noteInt key i : Judge C Unit) := nofun

@[simp] theorem founded_context : Founded G (context : Judge C C) := nofun

@[simp] theorem founded_update (f : C → C) : Founded G (update f) := nofun

theorem founded_forM {A : Type} {xs : List A} {g : A → Judge C PUnit}
    (h : ∀ x, Founded G (g x)) : Founded G (xs.forM g) := by
  induction xs with
  | nil => exact founded_pure _
  | cons x xs ih => exact (h x).bind fun _ => ih

end Judge

/-! ## Lifecycles -/

namespace Probe

variable {C Obs : Type} {p : Probe C Obs} {Q : Obs → Prop}

/-- A lifecycle whose answers are founded stops only for a reason that there may be. -/
def Founded (G : Grounds) (p : Probe C Obs) : Prop :=
  ∀ ⦃c j r exam⦄, Journal.Founded G j → p.Course c j r exam → G.Result (fun _ => True) r

/-- A course of a lifecycle is founded if its stages are; of the invocation it is enough that it is
so in this course. -/
theorem Course.founded {c : C} {j : Journal} {r : Except Halt Unit} {exam : Exam C}
    (h : p.Course c j r exam) (hj : j.Founded G) (hsetup : Step.Founded G (fun _ => True) p.setup)
    (hinvoke : ∀ {c own r c'}, own.Sublist j → own.Founded G → p.invoke.Plays c own r c' →
      G.Result Q r)
    (hcheck : ∀ observed, Q observed → Judge.Founded G (p.check observed)) :
    G.Result (fun _ => True) r := by
  cases h with
  | setupHalts setup => exact hsetup hj setup
  | tested setup test =>
    obtain ⟨-, htest⟩ := Journal.founded_append.mp hj
    cases test with
    | halts invoke => exact hinvoke (List.sublist_append_right ..) htest invoke
    | judged invoke check =>
      have hobserved := hinvoke (List.sublist_append_right ..) htest invoke
      rcases r with halt | ⟨⟩
      · exact hcheck _ hobserved (congrArg Prod.fst check)
      · trivial

/-- A lifecycle is founded if its stages are. -/
theorem founded_of_stages (hsetup : Step.Founded G (fun _ => True) p.setup)
    (hinvoke : Step.Founded G Q p.invoke)
    (hcheck : ∀ observed, Q observed → Judge.Founded G (p.check observed)) : p.Founded G :=
  fun _ _ _ _ hj h => h.founded hj hsetup (fun _ hown hplays => hinvoke hown hplays) hcheck

/-- Without a setup, a lifecycle is founded if its invocation and its check are. -/
theorem founded_of_invoke (hsetup : p.setup = pure ()) (hinvoke : Step.Founded G Q p.invoke)
    (hcheck : ∀ observed, Q observed → Judge.Founded G (p.check observed)) : p.Founded G :=
  founded_of_stages (hsetup ▸ Step.founded_pure trivial) hinvoke hcheck

end Probe

/-! ## Output and identification -/

theorem Output.founded_checkLength (expected : Nat) (written : UInt64) :
    Judge.Founded G (checkLength expected written) :=
  (Judge.founded_noteNat ..).bind fun _ => by simp

theorem Output.write_founded (fd : Int32) : (writeProbe fd).Founded G :=
  Probe.founded_of_invoke rfl (Step.founded_call (.write fd message)) fun written _ =>
    founded_checkLength _ written

theorem Output.writev_founded (fd : Int32) : (writevProbe fd).Founded G :=
  Probe.founded_of_invoke rfl (Step.founded_call (.writev fd parts)) fun written _ =>
    (Judge.founded_noteNat ..).bind fun _ => founded_checkLength _ written

theorem Uname.founded : Uname.probe.Founded G :=
  Probe.founded_of_invoke rfl (Step.founded_call .uname) fun uts _ =>
    (Judge.founded_forM fun entry => by simp).bind fun _ => by simp

/-! ## Identity -/

namespace Identity

theorem setThreadArea_founded (slots : SlotRange) : (setThreadAreaProbe slots).Founded G := by
  refine Probe.founded_of_stages (Q := fun _ => True) (Step.founded_unless_supports _ trivial) ?_
    fun descriptor _ => (Judge.founded_noteNat ..).bind fun _ => by simp
  refine (Step.founded_attempt (.setThreadArea (.flat ThreadAreaDescriptor.autoAssign))).bind ?_
  rintro (e | slot) ha
  · exact Step.founded_ite (Step.founded_fail trivial) (Step.founded_fail ha.2)
  · exact Step.founded_pure trivial

theorem getpid_founded : getpidProbe.Founded G :=
  Probe.founded_of_invoke rfl (Step.founded_call .getpid) fun pid _ =>
    (Judge.founded_noteInt ..).bind fun _ => by simp

theorem gettid_founded (model : ThreadIdModel) : (gettidProbe model).Founded G := by
  refine Probe.founded_of_stages (Step.founded_get_bind fun c => ?_) (Step.founded_call .gettid) ?_
  · refine Step.founded_ite ?_ (Step.founded_pure trivial)
    exact (Step.founded_need _ .getpid).bind fun pid _ => Step.founded_modify _
  · intro tid _
    refine (Judge.founded_noteInt ..).bind fun _ => (Judge.founded_note ..).bind fun _ => ?_
    refine Judge.founded_ite (fun _ => by simp) fun _ => Judge.founded_context.bind fun c => ?_
    cases c.pid with
    | none => simp
    | some pid => cases hmismatch : model.mismatch? tid pid <;> simp [hmismatch]

theorem schedYield_founded : schedYieldProbe.Founded G :=
  Probe.founded_of_invoke rfl (Step.founded_call .schedYield) fun _ _ => Judge.founded_pure ()

end Identity

/-! ## Files -/

namespace Files

theorem founded_checkDescriptor (fd : Int32) : Judge.Founded G (checkDescriptor fd) :=
  (Judge.founded_noteInt ..).bind fun _ => by simp

theorem open_founded (path : CText) : (openProbe path).Founded G :=
  Probe.founded_of_stages (Step.founded_unless_supports _ trivial)
    (Step.founded_call (.openFile path createFlag createMode)) fun fd _ =>
      (Judge.founded_update _).bind fun _ => (founded_checkDescriptor fd).bind fun _ =>
        Judge.founded_update _

theorem openAt_founded (dirfd : Int32) (path : CText) : (openAtProbe dirfd path).Founded G := by
  refine Probe.founded_of_invoke (Q := fun _ => True) rfl ?_ fun fd _ =>
    (Judge.founded_update _).bind fun _ =>
      (Judge.founded_noteInt ..).bind fun _ => founded_checkDescriptor fd
  refine (Step.founded_attempt (.openAt dirfd path createFlag createMode)).bind ?_
  rintro (e | fd) ha
  · exact Step.founded_ite (Step.founded_fail trivial) (Step.founded_fail ha.2)
  · exact Step.founded_pure trivial

theorem read_founded (path : CText) : (readProbe path).Founded G := by
  refine Probe.founded_of_stages (Q := fun _ => True) (Step.founded_get_bind fun c => ?_)
    (Step.founded_get_bind fun c => ?_) fun n _ =>
      (Judge.founded_noteNat ..).bind fun _ => by simp
  · refine Step.founded_ite ?_ (Step.founded_pure trivial)
    exact (Step.founded_need _ (openTarget path)).bind fun fd _ => Step.founded_modify _
  · cases c.readFd with
    | none => exact Step.founded_fail trivial
    | some fd => exact (Step.founded_call (.read fd 2)).bind fun _ _ => Step.founded_pure trivial

theorem founded_closeAll (fds : List Int32) : Step.Founded G (fun _ => True) (closeAll fds) := by
  induction fds with
  | nil => exact Step.founded_pure trivial
  | cons fd rest ih =>
    exact (Step.founded_modify _).bind fun _ _ => (Step.founded_call (.close fd)).bind fun _ _ => ih

theorem close_founded : closeProbe.Founded G := by
  refine Probe.founded_of_stages (Q := fun _ => True) (Step.founded_get_bind fun c => ?_)
    (Step.founded_get_bind fun c => ?_) fun closed _ => by simp [closeProbe]
  · exact Step.founded_ite (Step.founded_fail trivial) (Step.founded_pure trivial)
  · exact (founded_closeAll _).bind fun _ _ => (Step.founded_modify _).bind fun _ _ =>
      Step.founded_pure trivial

end Files

/-! ## Memory -/

namespace Memory

variable {length pageSize : UInt64}

theorem brk_founded : brkProbe.Founded G :=
  Probe.founded_of_invoke rfl (Step.founded_call (.brk 0)) fun stop _ =>
    (Judge.founded_note ..).bind fun _ => by simp

theorem mmap_founded : (mmapProbe length pageSize).Founded G :=
  Probe.founded_of_invoke rfl (Step.founded_call (.mmap (.anonymousReadOnly length)))
    fun region _ => (Judge.founded_note ..).bind fun _ => (Judge.founded_note ..).bind fun _ =>
      Judge.founded_ite (fun _ => by simp) fun _ => (Judge.founded_update _).bind fun _ => by simp

theorem founded_needRegion : Step.Founded G (fun _ => True) (needRegion length) :=
  Step.founded_get_bind fun _ =>
    Step.founded_ite (Step.founded_fail trivial) (Step.founded_pure trivial)

/-- The vector that is checked has an entry for every page, so that only the length of the vector
can make the probe give up by itself. -/
theorem mincore_founded (hpage : pageSize ≠ 0)
    (hlength : ∀ fault, vectorLength length pageSize = .error fault → G.fault fault) :
    (mincoreProbe length pageSize).Founded G := by
  refine Probe.founded_of_stages (Q := fun vector => pageCount length pageSize ≤ vector.length)
    founded_needRegion (Step.founded_get_bind fun c => ?_) ?_
  · cases c.regions.find? length with
    | none => exact Step.founded_fail trivial
    | some region =>
      refine (Step.founded_ofExcept (Q := fun capacity =>
        vectorLength length pageSize = .ok capacity) (fun _ h => h) hlength).bind ?_
      intro capacity hcapacity
      refine (Step.founded_call (.mincore region capacity)).bind fun stored _ => ?_
      refine Step.founded_pure ?_
      rw [length_filledVector, eq_of_vectorLength_eq_ok hpage hcapacity]
      exact Nat.le_add_right _ _
  · intro vector hvector
    have hexpected : (Judge.ofExcept (residencyLength length pageSize) : Judge Context Nat) =
        pure (pageCount length pageSize) := by
      rw [residencyLength_of_ne_zero hpage]
      rfl
    simp only [mincoreProbe, hexpected, pure_bind, if_neg (Nat.not_lt.mpr hvector)]
    refine (Judge.founded_noteNat ..).bind fun _ => (Judge.founded_note ..).bind fun _ => ?_
    exact Judge.founded_ite (fun _ => by simp) fun _ => by simp

theorem munmap_founded : (munmapProbe length).Founded G := by
  refine Probe.founded_of_stages (Q := fun _ => True) founded_needRegion
    (Step.founded_get_bind fun c => ?_) fun base _ => by simp [munmapProbe]
  cases c.regions.find? length with
  | none => exact Step.founded_fail trivial
  | some region =>
    exact (Step.founded_modify _).bind fun _ _ =>
      (Step.founded_call (.munmap region)).bind fun _ _ => Step.founded_pure trivial

end Memory

/-! ## Concurrency -/

namespace Concurrency

theorem futexWait_founded (timeout : Duration) : (futexWaitProbe timeout).Founded G := by
  refine Probe.founded_of_stages (Q := fun observed => ∀ e, observed.result = .error e → G.error e)
    (Step.founded_modify _) ?_ ?_
  · refine Step.founded_clock.bind fun started _ => Step.founded_get_bind fun c => ?_
    refine (Step.founded_attemptStoring _ _).bind fun result hresult => ?_
    refine Step.founded_clock.bind fun ended _ => Step.founded_pure ?_
    rintro e rfl
    exact hresult.2
  · intro observed hobserved
    refine (Judge.founded_noteNat ..).bind fun _ => (Judge.founded_noteNat ..).bind fun _ => ?_
    refine (Judge.founded_noteNat ..).bind fun _ => ?_
    cases hresult : observed.result with
    | ok ret => exact Judge.founded_refute ..
    | error e =>
      refine Judge.founded_ite (fun _ => by simp) fun _ => Judge.founded_ite (fun _ => by simp) ?_
      exact fun _ => Judge.founded_fail (hobserved e hresult)

theorem futexWake_founded (count : Int32) : (futexWakeProbe count).Founded G := by
  refine Probe.founded_of_invoke (Q := fun _ => True) rfl (Step.founded_get_bind fun c => ?_)
    fun woken _ => (Judge.founded_noteInt ..).bind fun _ =>
      (Judge.founded_noteInt ..).bind fun _ => by simp
  refine (Step.founded_attemptStoring (.futexWake c.word count) _).bind ?_
  rintro (e | woken) ha
  · exact Step.founded_fail ha.2
  · exact Step.founded_pure trivial

theorem clone_founded {size : UInt64} {status : Int32} {stack : ThreadStack}
    (hstack : ThreadStack.allocate size = .ok stack) : (cloneProbe size status).Founded G := by
  refine Probe.founded_of_stages (Q := fun _ => True) ((Step.founded_supports .clone).bind ?_) ?_
    fun tid _ => (Judge.founded_noteInt ..).bind fun _ => (Judge.founded_note ..).bind fun _ =>
      (Judge.founded_noteInt ..).bind fun _ => by simp
  · rintro (_ | _) -
    · exact Step.founded_fail_bind trivial
    · exact Step.founded_get_bind fun c =>
        Step.founded_ite (Step.founded_fail trivial) (Step.founded_pure trivial)
  · simp only [cloneProbe, hstack, Step.ofExcept_ok, pure_bind]
    refine (Step.founded_ask (.call (.clone stack 0 status))).bind ?_
    rintro ⟨stored, returned⟩ ⟨hattempted, hfault⟩
    cases returned with
    | value tid => exact (Step.founded_modify _).bind fun _ _ => Step.founded_pure trivial
    | failed e => exact Step.founded_fail (hattempted (.error e) rfl).2
    | panicked fault => exact Step.founded_panic (hfault fault rfl)

theorem founded_awaitOnce (word : UInt32) (timeout : Duration) :
    Step.Founded G (fun _ => True) (awaitOnce word timeout) := by
  refine (Step.founded_attemptStoring _ _).bind ?_
  rintro (e | ret) -
  · refine Step.founded_ite (Step.founded_pure trivial) ?_
    exact (Step.founded_log _).bind fun _ _ => Step.founded_call .schedYield
  · exact Step.founded_pure trivial

/-- The loop halts because a wait does, or because the counter holds no more waits. -/
theorem joinLoop_halts {child : Child} {started deadline : Instant} {left : Nat} {c c' : Context}
    {j : Journal} {halt : Halt}
    (h : (joinLoop child started deadline left).Plays c j (.error halt) c') :
    (∃ own word timeout c₁ c₂, own.Sublist j ∧
        (awaitOnce word timeout).Plays c₁ own (.error halt) c₂) ∨
      halt = .panicked .addOverflow ∧ left ≤ j.waits := by
  induction left generalizing c j with
  | zero =>
    obtain ⟨last, word, now, j, c₁, ⟨ended, -, rfl, h₁⟩ | ⟨-, -, rfl, h₁⟩⟩ := plays_look_then h
    · obtain ⟨-, heq, -⟩ := Staged.plays_pure.mp h₁
      cases heq
    · obtain ⟨-, heq, -⟩ := Step.plays_panic.mp h₁
      cases heq
      exact .inr ⟨rfl, Nat.zero_le _⟩
  | succ left ih =>
    obtain ⟨last, word, now, j, c₁, ⟨ended, -, rfl, h₁⟩ | ⟨-, -, rfl, h₁⟩⟩ := plays_look_then h
    · obtain ⟨-, heq, -⟩ := Staged.plays_pure.mp h₁
      cases heq
    have hpart : j.Sublist (⟨.load last, word⟩ :: ⟨.clock, now⟩ :: j) :=
      (List.sublist_cons_self ..).trans (List.sublist_cons_self ..)
    obtain ⟨_, hwait, heq⟩ | ⟨own, _, c₂, rest, rfl, hwait, hloop⟩ := Staged.plays_bind.mp h₁
    · cases heq
      exact .inl ⟨j, word, _, _, _, hpart, hwait⟩
    -- the rest of the loop has one wait less to count
    obtain ⟨own', word', timeout', c₃, c₄, hown', hwait'⟩ | ⟨rfl, hleft⟩ := ih hloop
    · exact .inl ⟨own', word', timeout', c₃, c₄,
        (hown'.trans (List.sublist_append_right ..)).trans hpart, hwait'⟩
    · refine .inr ⟨rfl, le_trans ?_ (Journal.waits_le hpart)⟩
      rw [Journal.waits_append, Nat.add_comm]
      exact Nat.add_le_add (waits_awaitOnce hwait) hleft

/-- The join gives up by itself only if its deadline cannot be told, or there were as many waits as
the counter can hold. -/
theorem join_founded {timeout : Duration} {c : Context} {j : Journal} {r : Except Halt Unit}
    {exam : Exam Context} (hj : j.Founded G) (h : (joinProbe timeout).Course c j r exam)
    (hdeadline : ∀ started, (⟨.clock, started⟩ : Entry) ∈ j → started.add? timeout = none →
      G.fault .instantOverflow)
    (hwaits : maxWaits ≤ j.waits → G.fault .addOverflow) : G.Result (fun _ => True) r := by
  refine h.founded (Q := fun _ => True) hj (Step.founded_get_bind fun c => ?_) ?_
    fun observed _ => (Judge.founded_noteInt ..).bind fun _ =>
      (Judge.founded_noteNat ..).bind fun _ => (Judge.founded_noteNat ..).bind fun _ => by simp
  · exact Step.founded_ite (Step.founded_fail trivial) (Step.founded_pure trivial)
  intro c own r c' hpart hown hinvoke
  replace hinvoke := Staged.plays_get_bind.mp hinvoke
  cases hchild : c.child with
  | none =>
    rw [hchild] at hinvoke
    obtain ⟨-, rfl, -⟩ := Step.plays_fail.mp hinvoke
    trivial
  | some child =>
    rw [hchild] at hinvoke
    obtain ⟨started, j', rfl, hrest⟩ := Step.plays_clock_bind.mp hinvoke
    cases hadd : started.add? timeout with
    | none =>
      simp only [hadd] at hrest
      obtain ⟨-, rfl, -⟩ := Step.plays_panic.mp hrest
      exact hdeadline started (hpart.subset List.mem_cons_self) hadd
    | some deadline =>
      simp only [hadd] at hrest
      replace hpart := (List.sublist_cons_self ..).trans hpart
      rcases r with halt | observed
      · obtain ⟨own, word, remaining, c₁, c₂, hsub, hwait⟩ | ⟨rfl, hleft⟩ := joinLoop_halts hrest
        · exact founded_awaitOnce word remaining (fun e he => hj e ((hsub.trans hpart).subset he))
            hwait
        · exact hwaits (hleft.trans (Journal.waits_le hpart))
      · trivial

end Concurrency

/-! ## Lifecycle -/

namespace Lifecycle

/-- What the two probes of `execve` make of how it came back. -/
theorem founded_unexpectedResult {request : ExecRequest} {x : Except SyscallError Int64}
    (hx : G.Attempted (.execve request) x) (hfailed : (execResult x).succeeded = false) :
    (unexpectedResult (execResult x)).Founded G := by
  cases x with
  | ok ret =>
    have hnegative : ¬0 ≤ ret := of_decide_eq_false hfailed
    exact hx (Int64.not_le.mp hnegative)
  | error e =>
    obtain ⟨hsyscall, herror⟩ := hx
    have hcause : (⟨.execve, e.ret, e.errno⟩ : SyscallError) = e := by
      rw [← show e.syscall = .execve from hsyscall]
    show G.error ⟨.execve, e.ret, e.errno⟩
    rwa [hcause]

@[simp] theorem founded_noteResult (request : ExecRequest) (result : RawReturn) :
    Judge.Founded G (noteResult request result) := by
  refine (Judge.founded_note ..).bind fun _ => (Judge.founded_note ..).bind fun _ => ?_
  cases result.errno <;> simp

theorem execMissing_founded (request : ExecRequest) : (execMissingProbe request).Founded G := by
  refine Probe.founded_of_stages (Q := fun observed => ∃ x, observed.result = execResult x ∧
    G.Attempted (.execve request) x) ?_ (Step.founded_get_bind fun c => ?_) ?_
  · refine (Step.founded_need _ .getpid).bind fun pid _ => ?_
    refine (Step.founded_modify _).bind fun _ _ => ?_
    exact (Step.founded_need _ openWitness).bind fun fd _ => Step.founded_modify _
  · cases c.witnessFd with
    | none => exact Step.founded_fail trivial
    | some fd =>
      refine (Step.founded_attempt (.execve request)).bind fun x hx => ?_
      refine (Step.founded_call .getpid).bind fun pidAfter _ => ?_
      refine (Step.founded_attempt (.read fd 1)).bind fun witnessRead _ => ?_
      exact Step.founded_get_bind fun d => Step.founded_pure ⟨x, rfl, hx⟩
  · rintro observed ⟨x, hresult, hx⟩
    refine (founded_noteResult ..).bind fun _ => ?_
    refine Judge.founded_ite (fun _ => Judge.founded_refute_bind ..) fun hfailed => ?_
    rw [hresult, Bool.not_eq_true] at hfailed
    refine Judge.founded_ite (fun _ => ?_) fun _ => Judge.founded_context.bind fun c => ?_
    · rw [hresult]
      exact Judge.founded_fail_bind (founded_unexpectedResult hx hfailed)
    · cases c.pidBefore <;> cases observed.witnessRead <;> simp

theorem execExisting_founded (request : ExecRequest) (model : ExecModel) :
    (execExistingProbe request model).Founded G := by
  refine Probe.founded_of_invoke (Q := fun result => ∃ x, result = execResult x ∧
    G.Attempted (.execve request) x) rfl ?_ ?_
  · exact (Step.founded_attempt (.execve request)).bind fun x hx =>
      Step.founded_pure ⟨x, rfl, hx⟩
  · rintro _ ⟨x, rfl, hx⟩
    refine (founded_noteResult ..).bind fun _ => (Judge.founded_note ..).bind fun _ => ?_
    refine Judge.founded_ite (fun hfailed => ?_) fun _ => by simp
    exact Judge.founded_fail_bind (founded_unexpectedResult hx (by simpa using hfailed))

end Lifecycle

end KernelProbe
