import KernelProbe.Probe.Concurrency
import KernelProbe.Probe.Lifecycle
import KernelProbe.Probe.Output
import KernelProbe.Probe.Uname
import KernelProbe.Proofs.Probe.Agreement
import KernelProbe.Proofs.Probe.Concurrency
import KernelProbe.Proofs.Probe.Files
import KernelProbe.Proofs.Probe.Identity
import KernelProbe.Proofs.Probe.Memory
import KernelProbe.Proofs.Probe.Regions

/-!
# What each probe depends on

For each probe, the part of the context that has to be the same in two runs so that both come to the
same outcome and evidence: a descriptor, a mapping, a word, a child, or nothing at all. A probe that
fetches what it finds missing depends on nothing if it would fetch what an earlier probe left it.
-/

namespace KernelProbe

open Journal Staged

variable {f : Replies} {timed : Prop}

/-! ## Output and identification -/

namespace Output

variable {S : Unit → Unit → Prop}

theorem agree_checkLength (expected : Nat) (written : UInt64) :
    Judge.Agree S (checkLength expected written) (checkLength expected written) :=
  (Judge.agree_noteNat ..).bind fun _ => Judge.agree_throw_if _

theorem write_agrees (fd : Int32) : (writeProbe fd).trial.Agrees f timed S S :=
  Probe.trial_agrees_of_invoke rfl rfl (Step.agree_call (.write fd message))
    fun written => agree_checkLength _ written

theorem writev_agrees (fd : Int32) : (writevProbe fd).trial.Agrees f timed S S :=
  Probe.trial_agrees_of_invoke rfl rfl (Step.agree_call (.writev fd parts)) fun written =>
    (Judge.agree_noteNat ..).bind fun _ => agree_checkLength _ written

end Output

theorem Uname.agrees {S : Unit → Unit → Prop} : Uname.probe.trial.Agrees f timed S S := by
  refine Probe.trial_agrees_of_invoke rfl rfl (Step.agree_call .uname) fun uts => ?_
  refine (Judge.agree_forM fun entry _ => Judge.agree_note entry.1 entry.2).bind fun _ => ?_
  exact Judge.agree_throw_if _

/-! ## Identity -/

namespace Identity

variable {S : Context → Context → Prop} {c : Context} {j : Journal} {model : ThreadIdModel}

theorem setThreadArea_agrees (slots : SlotRange) :
    (setThreadAreaProbe slots).trial.Agrees f timed S S := by
  refine Probe.trial_agrees (Step.agree_unless_supports ..) ?_ ?_ (agree_pure rfl) (R := Eq)
  · refine (Step.agree_attempt (.setThreadArea unassigned)).bind ?_
    rintro (e | slot) _ rfl
    · exact agree_ite (fun _ => Step.agree_fail _) fun _ => Step.agree_fail _
    · exact agree_pure rfl
  · rintro descriptor _ rfl
    refine (Judge.agree_noteNat ..).bind fun _ => ?_
    refine Judge.agree_guard _ ?_
    exact Judge.agree_throw_if _

theorem getpid_agrees (hS : ∀ pid c₁ c₂, S c₁ c₂ → S { c₁ with pid } { c₂ with pid }) :
    getpidProbe.trial.Agrees f timed S S := by
  refine Probe.trial_agrees_of_invoke rfl rfl (Step.agree_call .getpid) fun pid => ?_
  refine (Judge.agree_noteInt ..).bind fun _ => ?_
  exact Judge.agree_guard _ (Judge.agree_update (hS _))

/-- A process id that is held is the one that the kernel gives to whoever asks. -/
def Settled (f : Replies) (c : Context) : Prop :=
  ∀ pid, c.pid = some pid → (f.call .getpid).returned = .value pid

/-- What fetching the process id gives. -/
def fetched (f : Replies) : Except Halt Int32 :=
  (f.call .getpid).returned.orHalt (.setupCall "getpid for tid comparison")

/-- Where ids are compared, the setup halts as a fetch would, or the id is at hand that a fetch
would give, whether or not there was one before. -/
theorem plays_setup_settled {r : Except Halt Unit} {c' : Context} (hmodel : model ≠ .unchecked)
    (hc : Settled f c) (hfollows : j.Follows f) (h : (gettidProbe model).setup.Plays c j r c') :
    j.times = [] ∧ r = (fetched f).map (fun _ => ()) ∧ c'.pid = (fetched f).toOption := by
  change Plays (get >>= _) c j r c' at h
  rw [plays_get_bind] at h
  cases hpid : c.pid with
  | none =>
    simp only [hpid, Option.isNone_none, bne_iff_ne.mpr hmodel, Bool.and_self, if_true] at h
    obtain ⟨reply, ⟨halt, hret, rfl, rfl, rfl⟩ | ⟨pid, j, hret, rfl, h₁⟩⟩ :=
      Step.plays_need_bind.mp h
    · obtain rfl : reply = f.call .getpid := hfollows _ List.mem_cons_self
      have hfetched : fetched f = .error halt := hret
      exact ⟨rfl, by rw [hfetched]; rfl, by rw [hfetched, hpid]; rfl⟩
    · obtain rfl : reply = f.call .getpid := hfollows _ List.mem_cons_self
      have hfetched : fetched f = .ok pid := Returned.orHalt_eq_ok.mpr hret
      obtain ⟨rfl, rfl, rfl⟩ := plays_modify.mp h₁
      exact ⟨rfl, by rw [hfetched]; rfl, by rw [hfetched]; rfl⟩
  | some pid =>
    simp only [hpid, Option.isNone_some, Bool.false_and] at h
    obtain ⟨rfl, rfl, rfl⟩ := plays_pure.mp h
    have hfetched : fetched f = .ok pid := Returned.orHalt_eq_ok.mpr (hc pid hpid)
    exact ⟨rfl, by rw [hfetched]; rfl, by rw [hfetched, hpid]; rfl⟩

/-- The ids are the same in both contexts, if the model compares at all. -/
def Comparable (model : ThreadIdModel) (c₁ c₂ : Context) : Prop :=
  model ≠ .unchecked → c₁.pid = c₂.pid

theorem agree_setup_settled (model : ThreadIdModel) :
    Agree f timed (fun c₁ c₂ => Settled f c₁ ∧ Settled f c₂) (Comparable model) Eq
      (gettidProbe model).setup (gettidProbe model).setup := by
  rintro c₁ c₂ j₁ j₂ r₁ r₂ c₁' c₂' ⟨hc₁, hc₂⟩ htwin h₁ h₂
  by_cases hmodel : model = .unchecked
  · -- nothing is fetched where nothing is compared
    obtain ⟨rfl, rfl, rfl, -⟩ | ⟨-, hne, -⟩ := plays_fetchPid h₁
    · obtain ⟨rfl, rfl, rfl, -⟩ | ⟨-, hne, -⟩ := plays_fetchPid h₂
      · exact ⟨.ok rfl, fun hne => absurd hmodel hne, fun _ => rfl⟩
      · exact absurd hmodel hne
    · exact absurd hmodel hne
  · obtain ⟨htimes₁, rfl, hpid₁⟩ := plays_setup_settled hmodel hc₁ htwin.left h₁
    obtain ⟨htimes₂, rfl, hpid₂⟩ := plays_setup_settled hmodel hc₂ htwin.right h₂
    exact ⟨alike_self _, fun _ => hpid₁.trans hpid₂.symm, fun _ => htimes₁.trans htimes₂.symm⟩

theorem agree_checkTid (tid : Int32) :
    Judge.Agree (Comparable model) ((gettidProbe model).check tid)
      ((gettidProbe model).check tid) := by
  refine (Judge.agree_noteInt ..).bind fun _ => (Judge.agree_note ..).bind fun _ => ?_
  refine Judge.agree_guard _ (Judge.agree_context_bind fun c₁ c₂ hpid => ?_)
  by_cases hmodel : model = .unchecked
  · -- no id is a mismatch under this model
    subst hmodel
    cases c₁.pid <;> cases c₂.pid <;> exact Judge.agree_pure ()
  · rw [hpid hmodel]
    cases c₂.pid with
    | none => exact Judge.agree_pure ()
    | some pid =>
      cases hmismatch : model.mismatch? tid pid with
      | none =>
        simp only [hmismatch]
        exact Judge.agree_pure ()
      | some text =>
        simp only [hmismatch]
        exact Judge.agree_throw _

/-- The gettid probe does not depend on whether the process id is held already. -/
theorem gettid_agrees (model : ThreadIdModel) :
    (gettidProbe model).trial.Agrees f timed (fun c₁ c₂ => Settled f c₁ ∧ Settled f c₂)
      (Comparable model) := by
  refine Probe.trial_agrees (agree_setup_settled model) (Step.agree_call .gettid) ?_
    (agree_pure rfl)
  rintro tid _ rfl
  exact agree_checkTid tid

theorem schedYield_agrees : schedYieldProbe.trial.Agrees f timed S S :=
  Probe.trial_agrees_of_invoke rfl rfl (Step.agree_call .schedYield) fun _ => Judge.agree_pure ()

/-- Setting up thread-local storage leaves the process id alone. -/
theorem setThreadArea_frames (slots : SlotRange) : (setThreadAreaProbe slots).trial.Frames f S :=
  Probe.trial_frames rfl fun _ h hS => by rwa [(setThreadArea_course h).1]

/-- The id that the getpid probe leaves is the one that the kernel gives to whoever asks. -/
theorem getpid_frames :
    getpidProbe.trial.Frames f fun c₁ c₂ => Settled f c₁ ∧ Settled f c₂ := by
  refine Probe.trial_frames rfl fun hfollows h ⟨hc, hd⟩ => ⟨?_, hd⟩
  obtain ⟨reply, rfl, ⟨pid, hret, -, -, hcontext⟩ | ⟨-, -, hcontext⟩⟩ := getpid_course h
  · obtain rfl : reply = f.call .getpid := hfollows _ List.mem_cons_self
    rw [hcontext]
    rintro pid' ⟨⟩
    exact hret
  · rwa [hcontext]

end Identity

/-! ## Files -/

namespace Files

variable {S : Context → Context → Prop}

theorem agree_checkDescriptor (fd : Int32) :
    Judge.Agree S (checkDescriptor fd) (checkDescriptor fd) :=
  (Judge.agree_noteInt ..).bind fun _ => Judge.agree_throw_if _

theorem open_agrees (path : CText) (hkeep : ∀ fd c₁ c₂, S c₁ c₂ → S (c₁.keep fd) (c₂.keep fd))
    (hread : ∀ readFd c₁ c₂, S c₁ c₂ → S { c₁ with readFd } { c₂ with readFd }) :
    (openProbe path).trial.Agrees f timed S S := by
  refine Probe.trial_agrees (Step.agree_unless_supports ..)
    (Step.agree_call (.openFile path createFlag createMode)) ?_ (agree_pure rfl)
  rintro fd _ rfl
  refine (Judge.agree_update (hkeep fd)).bind fun _ => (agree_checkDescriptor fd).bind fun _ => ?_
  exact Judge.agree_update (hread _)

theorem openAt_agrees (dirfd : Int32) (path : CText)
    (hkeep : ∀ fd c₁ c₂, S c₁ c₂ → S (c₁.keep fd) (c₂.keep fd)) :
    (openAtProbe dirfd path).trial.Agrees f timed S S := by
  refine Probe.trial_agrees_of_invoke rfl rfl ?_ fun fd => ?_
  · refine (Step.agree_attempt (.openAt dirfd path createFlag createMode)).bind ?_
    rintro (e | fd) _ rfl
    · exact agree_ite (fun _ => Step.agree_fail _) fun _ => Step.agree_fail _
    · exact agree_pure rfl
  · exact (Judge.agree_update (hkeep fd)).bind fun _ => (Judge.agree_noteInt ..).bind fun _ =>
      agree_checkDescriptor fd

/-- The read probe depends on the descriptor to read from. -/
theorem read_agrees (path : CText) (hreadFd : ∀ c₁ c₂, S c₁ c₂ → c₁.readFd = c₂.readFd)
    (hkeep : ∀ fd c₁ c₂, S c₁ c₂ →
      S { c₁.keep fd with readFd := some fd } { c₂.keep fd with readFd := some fd }) :
    (readProbe path).trial.Agrees f timed S S := by
  refine Probe.trial_agrees (R := Eq) (agree_get_bind fun c₁ c₂ hS => ?_)
    (agree_get_bind fun c₁ c₂ hS => ?_) ?_ (agree_pure rfl)
  · rw [hreadFd c₁ c₂ hS]
    refine agree_ite (fun _ => ?_) fun _ => agree_pure rfl
    refine (Step.agree_need "open read target" (.openAt workingDirectory path 0 0)).bind ?_
    rintro fd _ rfl
    exact agree_modify (hkeep fd _ _)
  · rw [hreadFd c₁ c₂ hS]
    cases c₂.readFd with
    | none => exact Step.agree_fail _
    | some fd =>
      refine (Step.agree_call (.read fd 2)).bind ?_
      rintro data _ rfl
      exact agree_pure rfl
  · rintro n _ rfl
    exact (Judge.agree_noteNat ..).bind fun _ =>
      Judge.agree_throw_if _

theorem agree_closeAll (fds : List Int32) :
    Agree f timed Eq Eq Eq (closeAll fds) (closeAll fds) := by
  induction fds with
  | nil => exact agree_pure rfl
  | cons fd rest ih =>
    refine Agree.bind (R := Eq) (agree_modify fun hc => by rw [hc]) fun _ _ _ => ?_
    exact (Step.agree_call (.close fd)).bind fun _ _ _ => ih

/-- The close probe depends on everything that the group holds. -/
theorem close_agrees : closeProbe.trial.Agrees f timed Eq Eq := by
  refine Probe.trial_agrees (R := Eq) (agree_get_bind ?_) (agree_get_bind ?_) ?_ (agree_pure rfl)
  · rintro c _ rfl
    exact agree_ite (fun _ => Step.agree_fail _) fun _ => agree_pure rfl
  · rintro c _ rfl
    refine (agree_closeAll _).bind fun _ _ _ => ?_
    exact Agree.bind (R := Eq) (agree_modify fun hc => by rw [hc]) fun _ _ _ => agree_pure rfl
  · rintro closed _ rfl
    exact Judge.agree_note ..

/-- The openat probe leaves the descriptor to read from alone. -/
theorem openAt_frames (dirfd : Int32) (path : CText) :
    (openAtProbe dirfd path).trial.Frames f fun c₁ c₂ => c₁.readFd = c₂.readFd := by
  refine Probe.trial_frames rfl fun _ h hS => ?_
  obtain ⟨reply, -, ⟨fd, -, -, hcontext⟩ | ⟨-, -, hcontext⟩⟩ := openAt_course h
  · rw [hcontext]
    exact hS
  · rwa [hcontext]

end Files

/-! ## Memory -/

namespace Memory

variable {S : Context → Context → Prop} {length pageSize : UInt64}

theorem brk_agrees : brkProbe.trial.Agrees f timed S S :=
  Probe.trial_agrees_of_invoke rfl rfl (Step.agree_call (.brk 0)) fun _ =>
    (Judge.agree_note ..).bind fun _ => Judge.agree_throw_if _

theorem mmap_agrees (hS : ∀ region c₁ c₂, S c₁ c₂ →
      S ⟨c₁.regions.insert length region⟩ ⟨c₂.regions.insert length region⟩) :
    (mmapProbe length pageSize).trial.Agrees f timed S S := by
  refine Probe.trial_agrees_of_invoke rfl rfl
    (Step.agree_call (.mmap (.anonymousReadOnly length))) fun region => ?_
  refine (Judge.agree_note ..).bind fun _ => (Judge.agree_note ..).bind fun _ => ?_
  refine Judge.agree_guard _ ((Judge.agree_update (hS region)).bind fun _ => ?_)
  exact Judge.agree_throw_if _

/-- Both contexts have the same mapping of the length, or none. -/
def SameRegion (length : UInt64) (c₁ c₂ : Context) : Prop :=
  c₁.regions.find? length = c₂.regions.find? length

theorem agree_needRegion :
    Agree f timed (SameRegion length) (SameRegion length) Eq (needRegion length)
      (needRegion length) := by
  refine agree_get_bind fun c₁ c₂ hS => ?_
  rw [hS]
  exact agree_ite (fun _ => Step.agree_fail _) fun _ => agree_pure rfl

theorem agree_checkVector (vector : List UInt8) :
    Judge.Agree S ((mincoreProbe length pageSize).check vector)
      ((mincoreProbe length pageSize).check vector) := by
  refine (Judge.agree_ofExcept _).bind fun expected => Judge.agree_guard _ ?_
  refine (Judge.agree_noteNat ..).bind fun _ => (Judge.agree_note ..).bind fun _ => ?_
  refine Judge.agree_guard _ ?_
  exact Judge.agree_throw_if _

/-- The mincore probe depends on the mapping of its length. -/
theorem mincore_agrees :
    (mincoreProbe length pageSize).trial.Agrees f timed (SameRegion length)
      (SameRegion length) := by
  refine Probe.trial_agrees (R := Eq) agree_needRegion (agree_get_bind fun c₁ c₂ hS => ?_) ?_
    (agree_pure rfl)
  · rw [hS]
    cases c₂.regions.find? length with
    | none => exact Step.agree_fail _
    | some region =>
      refine (Step.agree_ofExcept _).bind ?_
      rintro capacity _ rfl
      refine (Step.agree_call (.mincore region capacity)).bind ?_
      rintro bytes _ rfl
      exact agree_pure rfl
  · rintro vector _ rfl
    exact agree_checkVector vector

/-- The munmap probe depends on the mapping of its length. -/
theorem munmap_agrees :
    (munmapProbe length).trial.Agrees f timed (SameRegion length) (SameRegion length) := by
  refine Probe.trial_agrees (R := Eq) agree_needRegion (agree_get_bind fun c₁ c₂ hS => ?_) ?_
    (agree_pure rfl)
  · rw [hS]
    cases c₂.regions.find? length with
    | none => exact Step.agree_fail _
    | some region =>
      refine Agree.bind (R := Eq) (agree_modify fun _ => ?_) fun _ _ _ => ?_
      · exact Regions.find?_erase_self.trans Regions.find?_erase_self.symm
      refine (Step.agree_call (.munmap region)).bind fun _ _ _ => agree_pure rfl
  · rintro base _ rfl
    exact Judge.agree_note ..

/-- A mapping leaves those of other lengths alone. -/
theorem mmap_frames {key : UInt64} (hkey : key ≠ length) :
    (mmapProbe length pageSize).trial.Frames f (SameRegion key) := by
  refine Probe.trial_frames rfl fun _ h hS => ?_
  obtain ⟨reply, -, ⟨region, -, -, hcontext, -⟩ | ⟨-, hcontext, -⟩⟩ := mmap_course h
  · rw [hcontext]
    exact (Regions.find?_insert_of_ne hkey).trans hS
  · rwa [hcontext]

theorem mincore_frames (hpage : pageSize ≠ 0) :
    (mincoreProbe length pageSize).trial.Frames f S :=
  Probe.trial_frames rfl fun _ h hS => by rwa [(mincore_course hpage h).1]

/-- Releasing a mapping leaves those of other lengths alone. -/
theorem munmap_frames {key : UInt64} (hkey : key ≠ length) :
    (munmapProbe length).trial.Frames f (SameRegion key) := by
  refine Probe.trial_frames rfl fun _ h hS => ?_
  obtain ⟨-, -, hcontext, -⟩ | ⟨region, reply, -, -, hcontext, -⟩ := munmap_course h
  · rwa [hcontext]
  · rw [hcontext]
    exact (Regions.find?_erase_of_ne hkey).trans hS

theorem brk_frames : brkProbe.trial.Frames f S :=
  Probe.trial_frames rfl fun _ h hS => by rwa [(brk_course h).1]

end Memory

/-! ## Concurrency -/

namespace Concurrency

/-- The futex word was last seen with the same value. -/
def SameWord (c₁ c₂ : Context) : Prop := c₁.word = c₂.word

/-- The same child is tracked, or none. -/
def SameChild (c₁ c₂ : Context) : Prop := c₁.child = c₂.child

theorem agree_checkWait (timeout : Duration) {S : Context → Context → Prop}
    {observed₁ observed₂ : WaitObservation} (h : observed₁.result = observed₂.result) :
    Judge.Agree S ((futexWaitProbe timeout).check observed₁)
      ((futexWaitProbe timeout).check observed₂) := by
  refine (Judge.agree_noteNat ..).bind fun _ => (Judge.agree_noteNat ..).bind fun _ => ?_
  refine (Judge.agree_elapsed ..).bind fun _ => ?_
  rw [h]
  cases observed₂.result with
  | ok ret => exact Judge.agree_throw _
  | error e =>
    refine Judge.agree_ite (Judge.agree_note ..) ?_
    exact Judge.agree_ite (Judge.agree_throw _) (Judge.agree_throw _)

/-- The refused wait depends on nothing, and leaves the same word in all runs. -/
theorem futexWait_agrees (timeout : Duration) :
    (futexWaitProbe timeout).trial.Agrees f timed (fun _ _ => True) SameWord := by
  refine Probe.trial_agrees (agree_modify fun _ => rfl) ?_
    (fun _ _ h => agree_checkWait timeout h) (agree_pure rfl)
  refine Step.agree_clock.bind fun started₁ started₂ _ => agree_get_bind fun c₁ c₂ hword => ?_
  rw [show c₁.word = c₂.word from hword]
  refine (Step.agree_attemptStoring _ fun word _ _ _ => rfl).bind ?_
  rintro result _ rfl
  exact Step.agree_clock.bind fun ended₁ ended₂ _ => agree_pure rfl

/-- The wake depends on the futex word. -/
theorem futexWake_agrees (count : Int32) :
    (futexWakeProbe count).trial.Agrees f timed SameWord SameWord := by
  refine Probe.trial_agrees_of_invoke rfl rfl (agree_get_bind fun c₁ c₂ hword => ?_) fun woken => ?_
  · rw [show c₁.word = c₂.word from hword]
    refine (Step.agree_attemptStoring (.futexWake c₂.word count) fun word _ _ _ => rfl).bind ?_
    rintro (e | woken) _ rfl
    · exact Step.agree_fail _
    · exact agree_pure rfl
  · refine (Judge.agree_noteInt ..).bind fun _ => (Judge.agree_noteInt ..).bind fun _ => ?_
    exact Judge.agree_throw_if _

/-- The clone probe depends on whether a child is tracked. -/
theorem clone_agrees (size : UInt64) (status : Int32) :
    (cloneProbe size status).trial.Agrees f timed SameChild SameChild := by
  refine Probe.trial_agrees (R := Eq) ((Step.agree_supports .clone).bind ?_)
    ((Step.agree_ofExcept _).bind ?_) ?_ (agree_pure rfl)
  · rintro known _ rfl
    cases known with
    | false => exact agree_throw_bind _
    | true =>
      refine agree_get_bind fun c₁ c₂ hchild => ?_
      rw [show c₁.child = c₂.child from hchild]
      exact agree_ite (fun _ => Step.agree_fail _) fun _ => agree_pure rfl
  · rintro stack _ rfl
    refine (Step.agree_reply (.clone stack 0 status)).bind ?_
    rintro ⟨stored, returned⟩ _ rfl
    cases returned with
    | value tid => exact (agree_modify fun _ => rfl).bind fun _ _ _ => agree_pure rfl
    | failed e => exact Step.agree_fail _
    | panicked fault => exact Step.agree_panic fault
  · rintro tid _ rfl
    refine (Judge.agree_noteInt ..).bind fun _ => (Judge.agree_note ..).bind fun _ => ?_
    refine (Judge.agree_noteInt ..).bind fun _ => ?_
    exact Judge.agree_throw_if _

theorem sameChild_storeChildWord (word : UInt32) (c₁ c₂ : Context) (h : SameChild c₁ c₂) :
    SameChild (c₁.storeChildWord word) (c₂.storeChildWord word) :=
  congrArg (Option.map _) h

/-- With the same readings of the clock, a look finds the same. -/
theorem agree_look (ht : timed) (child : Child) (started deadline : Instant) (waits : Nat) :
    Agree f timed SameChild SameChild Eq (look child started deadline waits)
      (look child started deadline waits) := by
  refine agree_get_bind fun c₁ c₂ hchild => ?_
  rw [show c₁.child = c₂.child from hchild]
  refine (Step.agree_load _).bind ?_
  rintro word _ rfl
  refine Agree.bind (R := Eq) (agree_modify (sameChild_storeChildWord word _ _)) fun _ _ _ => ?_
  refine Step.agree_clock.bind fun now now' hnow => ?_
  obtain rfl := hnow ht
  refine agree_ite (fun _ => Step.agree_clock.bind fun ended ended' hended => ?_) fun _ =>
    agree_pure rfl
  obtain rfl := hended ht
  exact agree_pure rfl

theorem agree_awaitOnce (word : UInt32) (timeout : Duration) :
    Agree f timed SameChild SameChild Eq (awaitOnce word timeout) (awaitOnce word timeout) := by
  refine (Step.agree_attemptStoring _ sameChild_storeChildWord).bind ?_
  rintro (e | ret) _ rfl
  · refine agree_ite (fun _ => agree_pure rfl) fun _ => ?_
    exact (Step.agree_log _).bind fun _ _ _ => Step.agree_call .schedYield
  · exact agree_pure rfl

/-- With the same readings of the clock, a join waits as often and finds the same. -/
theorem agree_joinLoop (ht : timed) (child : Child) (started deadline : Instant) (left : Nat) :
    Agree f timed SameChild SameChild Eq (joinLoop child started deadline left)
      (joinLoop child started deadline left) := by
  induction left with
  | zero =>
    refine (agree_look ht child started deadline maxWaits).bind ?_
    rintro (observed | wait) _ rfl
    · exact agree_pure rfl
    · exact Step.agree_panic _
  | succ left ih =>
    refine (agree_look ht child started deadline (maxWaits - (left + 1))).bind ?_
    rintro (observed | ⟨word, remaining⟩) _ rfl
    · exact agree_pure rfl
    · exact (agree_awaitOnce word remaining).bind fun _ _ _ => ih

/-- With the same readings of the clock, the join depends on the child that is tracked. -/
theorem join_agrees (ht : timed) (timeout : Duration) :
    (joinProbe timeout).trial.Agrees f timed SameChild SameChild := by
  refine Probe.trial_agrees (R := Eq) (agree_get_bind fun c₁ c₂ hchild => ?_)
    (agree_get_bind fun c₁ c₂ hchild => ?_) ?_ (agree_pure rfl)
  · rw [show c₁.child = c₂.child from hchild]
    exact agree_ite (fun _ => Step.agree_fail _) fun _ => agree_pure rfl
  · rw [show c₁.child = c₂.child from hchild]
    cases c₂.child with
    | none => exact Step.agree_fail _
    | some child =>
      refine Step.agree_clock.bind fun started started' hstarted => ?_
      obtain rfl := hstarted ht
      cases started.add? timeout with
      | none => exact Step.agree_panic _
      | some deadline => exact agree_joinLoop ht child started deadline maxWaits
  · rintro observed _ rfl
    refine (Judge.agree_noteInt ..).bind fun _ => (Judge.agree_noteNat ..).bind fun _ => ?_
    refine (Judge.agree_noteNat ..).bind fun _ => Judge.agree_guard _ ?_
    exact Judge.agree_update fun _ _ _ => rfl

/-- The refused wait leaves the child alone. -/
theorem futexWait_frames (timeout : Duration) :
    (futexWaitProbe timeout).trial.Frames f SameChild :=
  Probe.trial_frames rfl fun _ h hS => (futexWait_course h).1.trans hS

/-- The wake leaves the child alone. -/
theorem futexWake_frames (count : Int32) : (futexWakeProbe count).trial.Frames f SameChild :=
  Probe.trial_frames rfl fun _ h hS => (futexWake_course h).1.trans hS

end Concurrency

/-! ## Lifecycle -/

namespace Lifecycle

variable {S : Context → Context → Prop}

theorem agree_closeWitness : Agree f timed Eq Eq Eq closeWitness closeWitness := by
  refine agree_get_bind ?_
  rintro c _ rfl
  cases c.witnessFd with
  | none => exact agree_pure rfl
  | some fd =>
    refine Agree.bind (R := Eq) (agree_modify fun hc => by rw [hc]) fun _ _ _ => ?_
    refine (Step.agree_attempt (.close fd)).bind ?_
    rintro (e | ⟨⟩) _ rfl
    · exact Step.agree_log _
    · exact agree_pure rfl

theorem agree_noteResult (request : ExecRequest) (result : RawReturn) :
    Judge.Agree S (noteResult request result) (noteResult request result) := by
  refine (Judge.agree_note ..).bind fun _ => (Judge.agree_note ..).bind fun _ => ?_
  cases result.errno with
  | none => exact Judge.agree_pure ()
  | some errno => exact Judge.agree_note ..

/-- The probe of the missing path depends on the context that it starts from. -/
theorem execMissing_agrees (request : ExecRequest) :
    (execMissingProbe request).trial.Agrees f timed Eq Eq := by
  refine Probe.trial_agrees (R := Eq) ?_ (agree_get_bind ?_) ?_ ?_
  · refine (Step.agree_need "getpid before execve" .getpid).bind ?_
    rintro pid _ rfl
    refine Agree.bind (R := Eq) (agree_modify fun hc => by rw [hc]) fun _ _ _ => ?_
    refine (Step.agree_need "open witness descriptor"
      (.openAt Files.workingDirectory Files.nullDevice 0 0)).bind ?_
    rintro fd _ rfl
    exact agree_modify fun hc => by rw [hc]
  · rintro c _ rfl
    cases c.witnessFd with
    | none => exact Step.agree_fail _
    | some fd =>
      refine (Step.agree_attempt (.execve request)).bind ?_
      rintro result _ rfl
      refine (Step.agree_call .getpid).bind ?_
      rintro pidAfter _ rfl
      refine (Step.agree_attempt (.read fd 1)).bind ?_
      rintro witnessRead _ rfl
      refine agree_get_bind ?_
      rintro d _ rfl
      exact agree_pure rfl
  · rintro observed _ rfl
    refine (agree_noteResult ..).bind fun _ => Judge.agree_guard _ (Judge.agree_guard _ ?_)
    refine Judge.agree_context_bind ?_
    rintro c _ rfl
    rcases c.pidBefore with _ | before <;> rcases observed.witnessRead with e | count
    · exact Judge.agree_throw_bind _
    · exact Judge.agree_throw_if _
    · exact Judge.agree_guard _ (Judge.agree_throw_bind _)
    · exact Judge.agree_guard _ (Judge.agree_throw_if _)
  · exact Agree.bind (R := Eq) (agree_modify fun hc => by rw [hc]) fun _ _ _ => agree_closeWitness

/-- The probe of an existing program depends on nothing. -/
theorem execExisting_agrees (request : ExecRequest) (model : ExecModel) :
    (execExistingProbe request model).trial.Agrees f timed S S := by
  refine Probe.trial_agrees_of_invoke rfl rfl ?_ fun result => ?_
  · refine (Step.agree_attempt (.execve request)).bind ?_
    rintro result _ rfl
    exact agree_pure rfl
  · refine (agree_noteResult ..).bind fun _ => (Judge.agree_note ..).bind fun _ => ?_
    refine Judge.agree_guard _ ?_
    exact Judge.agree_throw_if _

end Lifecycle

end KernelProbe
