import KernelProbe.Probe.Concurrency
import KernelProbe.Probe.Lifecycle
import KernelProbe.Probe.Memory
import KernelProbe.Probe.Output
import KernelProbe.Probe.Uname
import KernelProbe.Probe.Identity
import KernelProbe.Proofs.Probe.Memory
import KernelProbe.Proofs.Program.Wording

/-!
# What each probe can say

`Trial.Worded W t` says that a probe which meets the texts and faults of a wording `W` comes to an
outcome that is put in these words only, and to evidence in them. `Probe.trial_worded` puts this
together from what the stages of the probe do, `Judge.Worded` says it of a judgement. Then it is
said of each probe. The two probes that can give up by themselves say what their faults are.
-/

namespace KernelProbe

open Text (OneLine)

variable (W : Wording)

/-! ## Outcomes and evidence -/

/-- A name under which something is noted: one line that cannot be taken for that of a verdict. -/
def Evidence.IsKey (key : String) : Prop :=
  OneLine key ∧ ¬"verdict: ".toList <+: (key ++ ": ").toList ∧
    ¬(key ++ ": ").toList <+: "verdict: ".toList

instance : DecidablePred Evidence.IsKey := fun key => by
  unfold Evidence.IsKey
  infer_instance

/-- Evidence in these words. -/
def Evidence.Worded (e : Evidence) : Prop := ∀ entry ∈ e.entries, IsKey entry.1 ∧ W.text entry.2

/-- A pass, or what an error in these words leads to. -/
def Outcome.Worded (o : Outcome) : Prop := o = .pass ∨ ∃ e : ProbeError, e.Worded W ∧ o = e.outcome

/-- If all answers are in these words, so are the outcome and the evidence; and the journal is
orderly. -/
def Trial.Worded {C : Type} (t : Trial C) : Prop :=
  ∀ ⦃c j o e c'⦄, Journal.Worded W j → (t.run c).Plays j ((o, e), c') →
    (o.Worded W ∧ e.Worded W) ∧ j.Orderly

variable {W}

theorem Halt.worded_assertion {message : String} (h : OneLine message)
    (observed : Option RawReturn) : (Halt.failed (.assertion message observed)).Worded W := h

theorem ProbeError.worded_setup {message : String} (h : OneLine message)
    (observed : Option RawReturn) : (setup message observed).Worded W := h

theorem ProbeError.worded_assertion {message : String} (h : OneLine message)
    (observed : Option RawReturn) : (assertion message observed).Worded W := h

theorem Evidence.worded_empty : Evidence.empty.Worded W := by simp [Worded]

theorem Evidence.Worded.push {e : Evidence} {key value : String} (h : e.Worded W)
    (hkey : IsKey key) (hvalue : W.text value) : (e.push key value).Worded W := by
  intro entry hentry
  rcases List.mem_append.mp hentry with hentry | hentry
  · exact h entry hentry
  · rw [List.mem_singleton.mp hentry]
    exact ⟨hkey, hvalue⟩

/-! ## Judgements -/

namespace Judge

variable {C α β : Type}

/-- The judgement notes evidence, and stops for a reason, in these words only. -/
def Worded (W : Wording) (judge : Judge C α) : Prop :=
  ∀ ⦃exam⦄, exam.evidence.Worded W → (judge.eval exam).2.evidence.Worded W ∧
    ∀ h, (judge.eval exam).1 = .error h → h.Worded W

theorem worded_pure (a : α) : Worded W (pure a : Judge C α) :=
  fun _ hexam => ⟨hexam, fun _ => nofun⟩

theorem worded_throw {h : Halt} (hh : h.Worded W) : Worded W (throw h : Judge C α) := by
  refine fun exam hexam => ⟨hexam, ?_⟩
  rintro _ ⟨⟩
  exact hh

theorem Worded.bind {judge : Judge C α} {f : α → Judge C β} (h : Worded W judge)
    (hf : ∀ a, Worded W (f a)) : Worded W (judge >>= f) := by
  intro exam hexam
  obtain ⟨hevidence, hhalt⟩ := h hexam
  rw [eval_bind]
  revert hevidence hhalt
  rcases judge.eval exam with ⟨r, exam'⟩
  intro hevidence hhalt
  cases r with
  | error e =>
    refine ⟨hevidence, ?_⟩
    rintro _ ⟨⟩
    exact hhalt e rfl
  | ok a => exact hf a hevidence

theorem worded_throw_bind {h : Halt} {f : β → Judge C α} (hh : h.Worded W) :
    Worded W (throw h >>= f) := by
  refine fun exam hexam => ⟨hexam, ?_⟩
  rintro _ ⟨⟩
  exact hh

theorem worded_ite {p : Prop} [Decidable p] {judge other : Judge C α} (h : Worded W judge)
    (hother : Worded W other) : Worded W (if p then judge else other) := by
  split
  · exact h
  · exact hother

theorem worded_throw_if {p : Prop} [Decidable p] {h : Halt} (hh : h.Worded W) :
    Worded W (if p then throw h else pure () : Judge C Unit) :=
  worded_ite (worded_throw hh) (worded_pure ())

/-- What follows a guard is worded if it is so without the guard. -/
theorem worded_guard {p : Prop} [Decidable p] {h : Halt} {f : β → Judge C α} {other : Judge C α}
    (hh : h.Worded W) (hother : Worded W other) :
    Worded W (if p then throw h >>= f else other) :=
  worded_ite (worded_throw_bind hh) hother

theorem worded_note {key value : String} (hkey : Evidence.IsKey key) (hvalue : W.text value) :
    Worded W (note key value : Judge C Unit) :=
  fun _ hexam => ⟨hexam.push hkey hvalue, fun _ => nofun⟩

theorem worded_noteNat {key : String} (hkey : Evidence.IsKey key) (n : Nat) :
    Worded W (noteNat key n : Judge C Unit) :=
  worded_note hkey (W.plain _ (Text.oneLine_decimal n))

theorem worded_noteInt {key : String} (hkey : Evidence.IsKey key) (i : Int) :
    Worded W (noteInt key i : Judge C Unit) :=
  worded_note hkey (W.plain _ (Text.oneLine_integer i))

theorem worded_update (f : C → C) : Worded W (update f) := fun _ hexam => ⟨hexam, fun _ => nofun⟩

theorem worded_context_bind {f : C → Judge C α} (h : ∀ c, Worded W (f c)) :
    Worded W (context >>= f) := by
  intro exam hexam
  rw [eval_bind, eval_context]
  exact h _ hexam

theorem worded_forM {A : Type} {xs : List A} {g : A → Judge C PUnit}
    (h : ∀ x ∈ xs, Worded W (g x)) : Worded W (xs.forM g) := by
  induction xs with
  | nil => exact worded_pure _
  | cons x xs ih =>
    exact (h x List.mem_cons_self).bind fun _ => ih fun y hy => h y (List.mem_cons_of_mem x hy)

end Judge

/-! ## Probes -/

namespace Probe

variable {C Obs : Type}

/-- What a lifecycle and a cleanup in these words come to. -/
theorem worded_verdict {lifecycle cleanup : Except Halt Unit}
    (hlifecycle : W.Result (fun _ => True) lifecycle)
    (hcleanup : W.Result (fun _ => True) cleanup) : (verdict lifecycle cleanup).Worded W := by
  rcases lifecycle with (e | fault) | ⟨⟩
  · exact .inr ⟨e, hlifecycle, rfl⟩
  · exact .inr ⟨.panicked fault.message, ⟨fault, hlifecycle, .inl rfl⟩, rfl⟩
  · rcases cleanup with (e | fault) | ⟨⟩
    · exact .inl rfl
    · exact .inr ⟨.panicked ("cleanup: " ++ fault.message), ⟨fault, hcleanup, .inr rfl⟩, rfl⟩
    · exact .inl rfl

@[simp] theorem orderly_faultLog (scope : String) (r : Except Halt Unit) :
    (Step.faultLog scope r).Orderly := by
  rcases r with (e | fault) | ⟨⟩ <;> simp [Step.faultLog, Entry.log?]

@[simp] theorem orderly_errorLog (name : String) (r : Except Halt Unit) :
    (errorLog name r).Orderly := by
  rcases r with (e | fault) | ⟨⟩ <;> simp [errorLog, Entry.log?]

@[simp] theorem orderly_cleanupLog (name : String) (r cleanup : Except Halt Unit) :
    (cleanupLog name r cleanup).Orderly := by
  rcases r with _ | ⟨⟩ <;> rcases cleanup with (e | fault) | ⟨⟩ <;>
    simp [cleanupLog, Entry.log?]

/-- A run of a probe is worded if its stages are; of the invocation it is enough that it is so in
this run. -/
theorem run_worded {p : Probe C Obs} {Q : Obs → Prop} {c c' : C} {j : Journal} {o : Outcome}
    {e : Evidence} (hj : j.Worded W) (h : (p.trial.run c).Plays j ((o, e), c'))
    (hsetup : Step.Worded W (fun _ => True) p.setup)
    (hinvoke : ∀ {c own r c'}, own.Sublist j → own.Worded W → p.invoke.Plays c own r c' →
      W.Result Q r ∧ own.Orderly)
    (hcheck : ∀ observed, Q observed → Judge.Worded W (p.check observed))
    (hcleanup : Step.Worded W (fun _ => True) p.cleanup) :
    (o.Worded W ∧ e.Worded W) ∧ j.Orderly := by
  obtain ⟨own, r, exam, clean, s, hcourse, hclean, rfl, rfl, rfl⟩ := plays_run h
  have hpart : own.Sublist (own ++ Step.faultLog p.spec.name r ++
      (clean ++ Step.faultLog p.spec.name s) ++ errorLog p.spec.name r ++
        cleanupLog p.spec.name r s) := by
    simp only [List.append_assoc]
    exact List.sublist_append_left ..
  simp only [Journal.worded_append] at hj
  obtain ⟨⟨⟨⟨hown, -⟩, hcleaned, -⟩, -⟩, -⟩ := hj
  obtain ⟨hlast, horderly⟩ := hcleanup hcleaned hclean
  suffices hlife : (W.Result (fun _ => True) r ∧ exam.evidence.Worded W) ∧ own.Orderly by
    refine ⟨⟨worded_verdict hlife.1.1 hlast, hlife.1.2⟩, ?_⟩
    simp [hlife.2, horderly]
  cases hcourse with
  | setupHalts setup =>
    obtain ⟨hr, horderly⟩ := hsetup hown setup
    exact ⟨⟨hr, Evidence.worded_empty⟩, horderly⟩
  | tested setup test =>
    obtain ⟨hset, htest⟩ := Journal.worded_append.mp hown
    replace hpart := (List.sublist_append_right ..).trans hpart
    rw [Journal.orderly_append]
    cases test with
    | halts invoke =>
      obtain ⟨hr, horderly⟩ := hinvoke hpart htest invoke
      exact ⟨⟨hr, Evidence.worded_empty⟩, (hsetup hset setup).2, horderly⟩
    | judged invoke check =>
      obtain ⟨hobserved, horderly⟩ := hinvoke hpart htest invoke
      obtain ⟨hevidence, hhalt⟩ :=
        @hcheck _ hobserved ⟨_, .empty⟩ Evidence.worded_empty
      rw [check] at hevidence hhalt
      refine ⟨⟨?_, hevidence⟩, (hsetup hset setup).2, horderly⟩
      rcases r with halt | ⟨⟩
      · exact hhalt halt rfl
      · trivial

/-- A probe is worded if its stages are. -/
theorem trial_worded {p : Probe C Obs} {Q : Obs → Prop}
    (hsetup : Step.Worded W (fun _ => True) p.setup) (hinvoke : Step.Worded W Q p.invoke)
    (hcheck : ∀ observed, Q observed → Judge.Worded W (p.check observed))
    (hcleanup : Step.Worded W (fun _ => True) p.cleanup) : p.trial.Worded W :=
  fun _ _ _ _ _ hj h =>
    run_worded hj h hsetup (fun _ hown hplays => hinvoke hown hplays) hcheck hcleanup

/-- Without setup and cleanup, a probe is worded if its invocation and its check are. -/
theorem trial_worded_of_invoke {p : Probe C Obs} {Q : Obs → Prop} (hsetup : p.setup = pure ())
    (hcleanup : p.cleanup = pure ()) (hinvoke : Step.Worded W Q p.invoke)
    (hcheck : ∀ observed, Q observed → Judge.Worded W (p.check observed)) : p.trial.Worded W :=
  trial_worded (hsetup ▸ Step.worded_pure trivial) hinvoke hcheck
    (hcleanup ▸ Step.worded_pure trivial)

end Probe

/-! ## Output and identification -/

namespace Output

theorem worded_checkLength (expected : Nat) (written : UInt64) :
    Judge.Worded W (checkLength expected written) := by
  refine (Judge.worded_noteNat (by decide) _).bind fun _ => Judge.worded_throw_if ?_
  exact Halt.worded_assertion (by simp +decide) _

theorem write_worded (fd : Int32) : (writeProbe fd).trial.Worded W :=
  Probe.trial_worded_of_invoke rfl rfl (Step.worded_call (.write fd message))
    fun written _ => worded_checkLength _ written

theorem writev_worded (fd : Int32) : (writevProbe fd).trial.Worded W :=
  Probe.trial_worded_of_invoke rfl rfl (Step.worded_call (.writev fd parts)) fun written _ =>
    (Judge.worded_noteNat (by decide) _).bind fun _ => worded_checkLength _ written

end Output

/-- The texts of the identification come out in the evidence. -/
theorem Uname.worded : Uname.probe.trial.Worded W := by
  refine Probe.trial_worded_of_invoke rfl rfl (Step.worded_call .uname) fun uts huts => ?_
  refine (Judge.worded_forM fun entry hentry => ?_).bind fun _ => Judge.worded_throw_if ?_
  · refine Judge.worded_note ?_ (huts entry hentry)
    have hkeys : ∀ key ∈ uts.fields.map (·.1), Evidence.IsKey key := by
      simp only [UtsName.fields, List.map_cons, List.map_nil]
      decide
    exact hkeys _ (List.mem_map_of_mem hentry)
  · exact Halt.worded_assertion (by decide) _

/-! ## Identity -/

namespace Identity

theorem setThreadArea_worded (slots : SlotRange) : (setThreadAreaProbe slots).trial.Worded W := by
  refine Probe.trial_worded (Q := fun _ => True) (Step.worded_unless_supports _ ?_) ?_ ?_
    (Step.worded_pure trivial)
  · exact ProbeError.worded_setup (by decide) none
  · refine (Step.worded_attempt (.setThreadArea (.flat ThreadAreaDescriptor.autoAssign))).bind ?_
    rintro (e | slot) -
    · refine Step.worded_ite (fun _ => ?_) fun _ => Step.worded_fail trivial
      exact Step.worded_fail (ProbeError.worded_setupCall (by decide) e)
    · exact Step.worded_pure trivial
  · intro descriptor _
    refine (Judge.worded_noteNat (by decide) _).bind fun _ => Judge.worded_guard ?_ ?_
    · exact Halt.worded_assertion (by decide) _
    · exact Judge.worded_throw_if (Halt.worded_assertion (by simp +decide) _)

theorem getpid_worded : getpidProbe.trial.Worded W := by
  refine Probe.trial_worded_of_invoke rfl rfl (Step.worded_call .getpid) fun pid _ => ?_
  refine (Judge.worded_noteInt (by decide) _).bind fun _ => Judge.worded_guard ?_ ?_
  · exact Halt.worded_assertion (by simp +decide) _
  · exact Judge.worded_update _

theorem oneLine_mismatch {model : ThreadIdModel} {tid pid : Int32} {text : String}
    (h : model.mismatch? tid pid = some text) : OneLine text := by
  unfold ThreadIdModel.mismatch? at h
  split at h
  · split at h <;> cases h
    simp +decide
  · split at h <;> cases h
    simp +decide
  · cases h

theorem gettid_worded (model : ThreadIdModel) : (gettidProbe model).trial.Worded W := by
  refine Probe.trial_worded (Step.worded_get_bind fun c => ?_) (Step.worded_call .gettid) ?_
    (Step.worded_pure trivial)
  · refine Step.worded_ite (fun _ => ?_) fun _ => Step.worded_pure trivial
    exact (Step.worded_need (by decide) .getpid).bind fun pid _ => Step.worded_modify _
  · intro tid _
    refine (Judge.worded_noteInt (by decide) _).bind fun _ => ?_
    refine (Judge.worded_note (by decide) (W.plain _ ?_)).bind fun _ => ?_
    · cases model <;> decide
    refine Judge.worded_guard (Halt.worded_assertion (by simp +decide) _) ?_
    refine Judge.worded_context_bind fun c => ?_
    cases c.pid with
    | none => exact Judge.worded_pure ()
    | some pid =>
      cases hmismatch : model.mismatch? tid pid with
      | none =>
        simp only [hmismatch]
        exact Judge.worded_pure ()
      | some text =>
        simp only [hmismatch]
        exact Judge.worded_throw (Halt.worded_assertion (oneLine_mismatch hmismatch) _)

theorem schedYield_worded : schedYieldProbe.trial.Worded W :=
  Probe.trial_worded_of_invoke rfl rfl (Step.worded_call .schedYield) fun _ _ =>
    Judge.worded_pure ()

end Identity

/-! ## Files -/

namespace Files

theorem worded_checkDescriptor (fd : Int32) : Judge.Worded W (checkDescriptor fd) :=
  (Judge.worded_noteInt (by decide) _).bind fun _ =>
    Judge.worded_throw_if (Halt.worded_assertion (by simp +decide) _)

theorem open_worded (path : CText) : (openProbe path).trial.Worded W := by
  refine Probe.trial_worded ?_ (Step.worded_call (.openFile path createFlag createMode)) ?_
    (Step.worded_pure trivial)
  · exact Step.worded_unless_supports _ (ProbeError.worded_setup (by decide) none)
  intro fd _
  refine (Judge.worded_update _).bind fun _ => (worded_checkDescriptor fd).bind fun _ => ?_
  exact Judge.worded_update _

theorem openAt_worded (dirfd : Int32) (path : CText) : (openAtProbe dirfd path).trial.Worded W := by
  refine Probe.trial_worded_of_invoke (Q := fun _ => True) rfl rfl ?_ fun fd _ => ?_
  · refine (Step.worded_attempt (.openAt dirfd path createFlag createMode)).bind ?_
    rintro (e | fd) -
    · refine Step.worded_ite (fun _ => ?_) fun _ => Step.worded_fail trivial
      exact Step.worded_fail (ProbeError.worded_assertion (by simp +decide) (some e.raw))
    · exact Step.worded_pure trivial
  · refine (Judge.worded_update _).bind fun _ => ?_
    exact (Judge.worded_noteInt (by decide) _).bind fun _ => worded_checkDescriptor fd

theorem read_worded (path : CText) : (readProbe path).trial.Worded W := by
  refine Probe.trial_worded (Q := fun _ => True) (Step.worded_get_bind fun c => ?_)
    (Step.worded_get_bind fun c => ?_) ?_ (Step.worded_pure trivial)
  · refine Step.worded_ite (fun _ => ?_) fun _ => Step.worded_pure trivial
    exact (Step.worded_need (by decide) (.openAt workingDirectory path 0 0)).bind fun fd _ =>
      Step.worded_modify _
  · cases c.readFd with
    | none => exact Step.worded_fail (ProbeError.worded_setup (by decide) none)
    | some fd => exact (Step.worded_call (.read fd 2)).bind fun _ _ => Step.worded_pure trivial
  · intro n _
    refine (Judge.worded_noteNat (by decide) _).bind fun _ => Judge.worded_throw_if ?_
    exact Halt.worded_assertion (by simp +decide) _

theorem worded_closeAll (fds : List Int32) : Step.Worded W (fun _ => True) (closeAll fds) := by
  induction fds with
  | nil => exact Step.worded_pure trivial
  | cons fd rest ih =>
    exact (Step.worded_modify _).bind fun _ _ => (Step.worded_call (.close fd)).bind fun _ _ => ih

theorem close_worded : closeProbe.trial.Worded W := by
  refine Probe.trial_worded (Q := fun _ => True) (Step.worded_get_bind fun c => ?_)
    (Step.worded_get_bind fun c => ?_) ?_ (Step.worded_pure trivial)
  · refine Step.worded_ite (fun _ => ?_) fun _ => Step.worded_pure trivial
    exact Step.worded_fail (ProbeError.worded_setup (by decide) none)
  · exact (worded_closeAll _).bind fun _ _ => (Step.worded_modify _).bind fun _ _ =>
      Step.worded_pure trivial
  · intro closed _
    refine Judge.worded_note (by decide) (W.plain _ (Text.oneLine_join (by decide) ?_))
    simp

theorem worded_closeLeftover (fds : List Int32) :
    Step.Worded W (fun _ => True) (closeLeftover fds) := by
  induction fds with
  | nil => exact Step.worded_pure trivial
  | cons fd rest ih =>
    refine (Step.worded_attempt (.close fd)).bind ?_
    rintro (e | ⟨⟩) -
    · exact (Step.worded_log (by simp)).bind fun _ _ => ih
    · exact ih

theorem teardown_worded : Step.Worded W (fun _ => True) teardown :=
  Step.worded_get_bind fun _ => (Step.worded_modify _).bind fun _ _ => worded_closeLeftover _

end Files

/-! ## Memory -/

namespace Memory

variable {length pageSize : UInt64}

theorem brk_worded : brkProbe.trial.Worded W :=
  Probe.trial_worded_of_invoke rfl rfl (Step.worded_call (.brk 0)) fun _ _ =>
    (Judge.worded_note (by decide) (W.plain _ (Text.oneLine_hex _))).bind fun _ =>
      Judge.worded_throw_if (Halt.worded_assertion (by decide) _)

theorem mmap_worded : (mmapProbe length pageSize).trial.Worded W := by
  refine Probe.trial_worded_of_invoke rfl rfl
    (Step.worded_call (.mmap (.anonymousReadOnly length))) fun region _ => ?_
  refine (Judge.worded_note (by decide) (W.plain _ (Text.oneLine_hex _))).bind fun _ => ?_
  refine (Judge.worded_note (by decide) (W.plain _ (Text.oneLine_hex _))).bind fun _ => ?_
  refine Judge.worded_guard (Halt.worded_assertion (by decide) _) ?_
  refine (Judge.worded_update _).bind fun _ => Judge.worded_throw_if ?_
  exact Halt.worded_assertion (by simp +decide) _

theorem worded_needRegion : Step.Worded W (fun _ => True) (needRegion length) := by
  refine Step.worded_get_bind fun c => ?_
  refine Step.worded_ite (fun _ => ?_) fun _ => Step.worded_pure trivial
  exact Step.worded_fail (ProbeError.worded_setup (by simp +decide) none)

theorem oneLine_residency (filled : List UInt8) :
    OneLine (" ".intercalate (filled.map fun b => Text.decimal (b &&& 1).toNat)) :=
  Text.oneLine_join (by decide) (by simp)

/-- The vector that is checked has an entry for every page, so that only the length of the vector
can make the probe give up by itself. -/
theorem mincore_worded (hpage : pageSize ≠ 0)
    (hlength : ∀ fault, vectorLength length pageSize = .error fault → W.fault fault) :
    (mincoreProbe length pageSize).trial.Worded W := by
  refine Probe.trial_worded (Q := fun vector => pageCount length pageSize ≤ vector.length)
    worded_needRegion (Step.worded_get_bind fun c => ?_) ?_ (Step.worded_pure trivial)
  · cases c.regions.find? length with
    | none => exact Step.worded_fail (ProbeError.worded_setup (by decide) none)
    | some region =>
      refine (Step.worded_ofExcept (Q := fun capacity =>
        vectorLength length pageSize = .ok capacity) (fun _ h => h) hlength).bind ?_
      intro capacity hcapacity
      refine (Step.worded_call (.mincore region capacity)).bind fun stored _ => ?_
      refine Step.worded_pure ?_
      rw [length_filledVector, eq_of_vectorLength_eq_ok hpage hcapacity]
      exact Nat.le_add_right _ _
  · intro vector hvector
    have hexpected : (Judge.ofExcept (residencyLength length pageSize) : Judge Context Nat) =
        pure (pageCount length pageSize) := by
      rw [residencyLength_of_ne_zero hpage]
      rfl
    simp only [mincoreProbe, hexpected, pure_bind, if_neg (Nat.not_lt.mpr hvector)]
    refine (Judge.worded_noteNat (by decide) _).bind fun _ => ?_
    refine (Judge.worded_note (by decide) (W.plain _ (oneLine_residency _))).bind fun _ => ?_
    refine Judge.worded_guard (Halt.worded_assertion (by simp +decide) _) ?_
    exact Judge.worded_throw_if (Halt.worded_assertion (by simp +decide) _)

theorem munmap_worded : (munmapProbe length).trial.Worded W := by
  refine Probe.trial_worded (Q := fun _ => True) worded_needRegion
    (Step.worded_get_bind fun c => ?_) ?_ (Step.worded_pure trivial)
  · cases c.regions.find? length with
    | none => exact Step.worded_fail (ProbeError.worded_setup (by decide) none)
    | some region =>
      exact (Step.worded_modify _).bind fun _ _ =>
        (Step.worded_call (.munmap region)).bind fun _ _ => Step.worded_pure trivial
  · intro base _
    exact Judge.worded_note (by decide) (W.plain _ (Text.oneLine_hex _))

theorem worded_releaseAll (regions : Regions) :
    Step.Worded W (fun _ => True) (releaseAll regions) := by
  induction regions with
  | nil => exact Step.worded_pure trivial
  | cons entry rest ih =>
    refine (Step.worded_attempt (.munmap entry.2)).bind ?_
    rintro (e | ⟨⟩) -
    · exact (Step.worded_log (by simp)).bind fun _ _ => ih
    · exact ih

theorem teardown_worded : Step.Worded W (fun _ => True) teardown :=
  Step.worded_get_bind fun _ => (Step.worded_modify _).bind fun _ _ => worded_releaseAll _

end Memory

/-! ## Concurrency -/

/-- Whether the call is a wait. -/
def Call.isWait : Call → Bool
  | .futexWait .. => true
  | _ => false

/-- The number of waits. -/
def Journal.waits (j : Journal) : Nat := j.calls.countP Call.isWait

@[simp] theorem Journal.waits_append (j₁ j₂ : Journal) :
    waits (j₁ ++ j₂) = j₁.waits + j₂.waits := by
  rw [waits, calls_append, List.countP_append]
  rfl

theorem Journal.waits_le {j whole : Journal} (h : j.Sublist whole) : j.waits ≤ whole.waits :=
  (h.filterMap Entry.call?).countP_le

namespace Concurrency

theorem futexWait_worded (timeout : Duration) : (futexWaitProbe timeout).trial.Worded W := by
  refine Probe.trial_worded (Q := fun _ => True) (Step.worded_modify _) ?_ ?_
    (Step.worded_pure trivial)
  · refine Step.worded_clock.bind fun started _ => Step.worded_get_bind fun c => ?_
    refine (Step.worded_attemptStoring _ _).bind fun result _ => ?_
    exact Step.worded_clock.bind fun ended _ => Step.worded_pure trivial
  · intro observed _
    refine (Judge.worded_noteNat (by decide) _).bind fun _ => ?_
    refine (Judge.worded_noteNat (by decide) _).bind fun _ => ?_
    refine (Judge.worded_noteNat (by decide) _).bind fun _ => ?_
    cases observed.result with
    | ok ret => exact Judge.worded_throw (Halt.worded_assertion (by decide) _)
    | error e =>
      refine Judge.worded_ite ?_ (Judge.worded_ite ?_ (Judge.worded_throw trivial))
      · exact Judge.worded_note (by decide) (W.plain _ (by decide))
      · exact Judge.worded_throw (Halt.worded_assertion (by simp +decide) _)

theorem futexWake_worded (count : Int32) : (futexWakeProbe count).trial.Worded W := by
  refine Probe.trial_worded_of_invoke (Q := fun _ => True) rfl rfl
    (Step.worded_get_bind fun c => ?_) fun woken _ => ?_
  · refine (Step.worded_attemptStoring (.futexWake c.word count) _).bind ?_
    rintro (e | woken) -
    · exact Step.worded_fail trivial
    · exact Step.worded_pure trivial
  · refine (Judge.worded_noteInt (by decide) _).bind fun _ => ?_
    refine (Judge.worded_noteInt (by decide) _).bind fun _ => Judge.worded_throw_if ?_
    exact Halt.worded_assertion (by simp +decide) _

theorem clone_worded {size : UInt64} {status : Int32} {stack : ThreadStack}
    (hstack : ThreadStack.allocate size = .ok stack) : (cloneProbe size status).trial.Worded W := by
  refine Probe.trial_worded (Q := fun _ => True) ((Step.worded_supports .clone).bind ?_) ?_ ?_
    (Step.worded_pure trivial)
  · rintro (_ | _) -
    · exact Step.worded_fail_bind (ProbeError.worded_setup (by decide) none)
    · refine Step.worded_get_bind fun c => ?_
      refine Step.worded_ite (fun _ => ?_) fun _ => Step.worded_pure trivial
      exact Step.worded_fail (ProbeError.worded_setup (by decide) none)
  · simp only [cloneProbe, hstack, Step.ofExcept_ok, pure_bind]
    refine (Step.worded_ask (.call (.clone stack 0 status)) nofun).bind ?_
    rintro ⟨stored, returned⟩ ⟨-, hfault⟩
    cases returned with
    | value tid => exact (Step.worded_modify _).bind fun _ _ => Step.worded_pure trivial
    | failed e => exact Step.worded_fail trivial
    | panicked fault => exact Step.worded_panic (hfault fault rfl)
  · intro tid _
    refine (Judge.worded_noteInt (by decide) _).bind fun _ => ?_
    refine (Judge.worded_note (by decide) (W.plain _ (Text.oneLine_hex _))).bind fun _ => ?_
    refine (Judge.worded_noteInt (by decide) _).bind fun _ => Judge.worded_throw_if ?_
    exact Halt.worded_assertion (by simp +decide) _

theorem worded_look (child : Child) (started deadline : Instant) (waits : Nat) :
    Step.Worded W (fun _ => True) (look child started deadline waits) := by
  refine Step.worded_get_bind fun c => (Step.worded_load _).bind fun word _ => ?_
  refine (Step.worded_modify _).bind fun _ _ => Step.worded_clock.bind fun now _ => ?_
  refine Step.worded_ite (fun _ => ?_) fun _ => Step.worded_pure trivial
  exact Step.worded_clock.bind fun ended _ => Step.worded_pure trivial

theorem worded_awaitOnce (word : UInt32) (timeout : Duration) :
    Step.Worded W (fun _ => True) (awaitOnce word timeout) := by
  refine (Step.worded_attemptStoring _ _).bind ?_
  rintro (e | ret) -
  · refine Step.worded_ite (fun _ => Step.worded_pure trivial) fun _ => ?_
    exact (Step.worded_log (by simp)).bind fun _ _ => (Step.worded_call .schedYield)
  · exact Step.worded_pure trivial

theorem waits_awaitOnce {word : UInt32} {timeout : Duration} {c c' : Context} {j : Journal}
    {r : Except Halt Unit} (h : (awaitOnce word timeout).Plays c j r c') : 1 ≤ j.waits := by
  obtain ⟨reply, ⟨_, _, rfl, _⟩ | ⟨_, j', _, rfl, _⟩⟩ := Step.plays_attemptStoring_bind.mp h
  · exact Nat.le_refl 1
  · simp [Journal.waits, Journal.calls_cons, Entry.call?, Call.isWait]

/-- The counter gives up only if there were as many waits as it can hold. -/
theorem result_joinLoop {child : Child} {started deadline : Instant} {left : Nat} {c c' : Context}
    {j : Journal} {r : Except Halt JoinObservation} (hj : j.Worded W)
    (h : (joinLoop child started deadline left).Plays c j r c')
    (hwaits : left ≤ j.waits → W.fault .addOverflow) :
    W.Result (fun _ => True) r ∧ j.Orderly := by
  induction left generalizing c j with
  | zero =>
    refine ((worded_look child started deadline maxWaits).bind ?_) hj h
    rintro (observed | wait) -
    · exact Step.worded_pure trivial
    · exact Step.worded_panic (hwaits (Nat.zero_le _))
  | succ left ih =>
    have hlook := worded_look (W := W) child started deadline (maxWaits - (left + 1))
    obtain ⟨_, hplays, rfl⟩ | ⟨j₁, x, c₁, j₂, rfl, hplays, hrest⟩ := Staged.plays_bind.mp h
    · exact hlook hj hplays
    obtain ⟨hj₁, hj₂⟩ := Journal.worded_append.mp hj
    have horderly₁ := (hlook hj₁ hplays).2
    rcases x with observed | ⟨word, remaining⟩
    · obtain ⟨rfl, rfl, -⟩ := Staged.plays_pure.mp hrest
      exact ⟨trivial, by simpa using horderly₁⟩
    -- a look that does not end the join: a wait, and the rest of the loop with one wait less
    have hwait := worded_awaitOnce (W := W) word remaining
    obtain ⟨_, hplays, rfl⟩ | ⟨j₂, _, c₂, j₃, rfl, hplays, hloop⟩ := Staged.plays_bind.mp hrest
    · obtain ⟨hhalt, horderly₂⟩ := hwait hj₂ hplays
      exact ⟨hhalt, Journal.orderly_append.mpr ⟨horderly₁, horderly₂⟩⟩
    · obtain ⟨hj₂, hj₃⟩ := Journal.worded_append.mp hj₂
      have horderly₂ := (hwait hj₂ hplays).2
      obtain ⟨hr, horderly₃⟩ := ih hj₃ hloop fun hleft => hwaits <| by
        have hone := waits_awaitOnce hplays
        simp only [Journal.waits_append]
        omega
      simp [hr, horderly₁, horderly₂, horderly₃]

theorem worded_checkJoin (timeout : Duration) (observed : JoinObservation) :
    Judge.Worded W ((joinProbe timeout).check observed) := by
  refine (Judge.worded_noteInt (by decide) _).bind fun _ => ?_
  refine (Judge.worded_noteNat (by decide) _).bind fun _ => ?_
  refine (Judge.worded_noteNat (by decide) _).bind fun _ => Judge.worded_guard ?_ ?_
  · exact Halt.worded_assertion (by simp +decide) _
  · exact Judge.worded_update _

/-- The join gives up by itself only if its deadline cannot be told, or there were as many waits as
the counter can hold. -/
theorem join_worded {timeout : Duration} {c c' : Context} {j : Journal} {o : Outcome} {e : Evidence}
    (hj : j.Worded W) (h : ((joinProbe timeout).trial.run c).Plays j ((o, e), c'))
    (hdeadline : ∀ started, (⟨.clock, started⟩ : Entry) ∈ j → started.add? timeout = none →
      W.fault .instantOverflow)
    (hwaits : maxWaits ≤ j.waits → W.fault .addOverflow) :
    (o.Worded W ∧ e.Worded W) ∧ j.Orderly := by
  refine Probe.run_worded (Q := fun _ => True) hj h (Step.worded_get_bind fun c => ?_) ?_
    (fun observed _ => worded_checkJoin timeout observed) (Step.worded_pure trivial)
  · refine Step.worded_ite (fun _ => ?_) fun _ => Step.worded_pure trivial
    exact Step.worded_fail (ProbeError.worded_setup (by decide) none)
  · intro c own r c' hpart hown hinvoke
    replace hinvoke := Staged.plays_get_bind.mp hinvoke
    cases hchild : c.child with
    | none =>
      rw [hchild] at hinvoke
      exact Step.worded_fail (ProbeError.worded_setup (by decide) none) hown hinvoke
    | some child =>
      rw [hchild] at hinvoke
      obtain ⟨started, j', rfl, hrest⟩ := Step.plays_clock_bind.mp hinvoke
      have hj' := (Journal.worded_cons.mp hown).2
      rw [Journal.orderly_cons]
      refine (and_congr_right fun _ => and_iff_right (by simp [Entry.log?])).mpr ?_
      cases hadd : started.add? timeout with
      | none =>
        simp only [hadd] at hrest
        have hfault := hdeadline started (hpart.subset List.mem_cons_self) hadd
        exact Step.worded_panic hfault hj' hrest
      | some deadline =>
        simp only [hadd] at hrest
        refine result_joinLoop hj' hrest fun hleft => hwaits (hleft.trans ?_)
        exact Journal.waits_le ((List.sublist_cons_self ..).trans hpart)

theorem teardown_worded : Step.Worded W (fun _ => True) teardown := by
  refine Step.worded_get_bind fun c => ?_
  cases c.child with
  | none => exact Step.worded_pure trivial
  | some child =>
    refine (Step.worded_load _).bind fun word _ => Step.worded_ite (fun _ => ?_) fun _ => ?_
    · exact Step.worded_modify _
    · exact (Step.worded_log (by simp)).bind fun _ _ => Step.worded_modify _

end Concurrency

/-! ## Lifecycle -/

namespace Lifecycle

theorem worded_closeWitness : Step.Worded W (fun _ => True) closeWitness := by
  refine Step.worded_get_bind fun c => ?_
  cases c.witnessFd with
  | none => exact Step.worded_pure trivial
  | some fd =>
    refine (Step.worded_modify _).bind fun _ _ => (Step.worded_attempt (.close fd)).bind ?_
    rintro (e | ⟨⟩) -
    · exact Step.worded_log (by simp)
    · exact Step.worded_pure trivial

/-- The path of a request comes out in the evidence. -/
theorem worded_noteResult {request : ExecRequest} (hpath : W.text request.path.text)
    (result : RawReturn) : Judge.Worded W (noteResult request result) := by
  refine (Judge.worded_note (by decide) hpath).bind fun _ => ?_
  refine (Judge.worded_note (by decide) (W.plain _ (Text.oneLine_wordHex _))).bind fun _ => ?_
  cases result.errno with
  | none => exact Judge.worded_pure ()
  | some errno =>
    refine Judge.worded_note (by decide) (W.plain _ ?_)
    simp +decide [Text.oneLine_errno]

theorem execMissing_worded {request : ExecRequest} (hpath : W.text request.path.text) :
    (execMissingProbe request).trial.Worded W := by
  refine Probe.trial_worded (Q := fun _ => True) ?_ (Step.worded_get_bind fun c => ?_) ?_ ?_
  · refine (Step.worded_need (by decide) .getpid).bind fun pid _ => ?_
    refine (Step.worded_modify _).bind fun _ _ => ?_
    exact (Step.worded_need (by decide) (.openAt Files.workingDirectory Files.nullDevice 0 0)).bind
      fun fd _ => Step.worded_modify _
  · cases c.witnessFd with
    | none => exact Step.worded_fail (ProbeError.worded_setup (by decide) none)
    | some fd =>
      refine (Step.worded_attempt (.execve request)).bind fun result _ => ?_
      refine (Step.worded_call .getpid).bind fun pidAfter _ => ?_
      refine (Step.worded_attempt (.read fd 1)).bind fun witnessRead _ => ?_
      exact Step.worded_get_bind fun d => Step.worded_pure trivial
  · intro observed _
    refine (worded_noteResult hpath _).bind fun _ => ?_
    refine Judge.worded_guard (Halt.worded_assertion (by decide) _) ?_
    refine Judge.worded_guard trivial (Judge.worded_context_bind fun c => ?_)
    have hwitness : ∀ e : SyscallError, (Halt.failed (.assertion
        ("descriptor open before execve is unusable after it: " ++ e.message)
        (some e.raw))).Worded W := fun e => Halt.worded_assertion (by simp +decide) _
    rcases c.pidBefore with _ | before <;> rcases observed.witnessRead with e | count
    · exact Judge.worded_throw_bind (hwitness e)
    · exact Judge.worded_throw_if (Halt.worded_assertion (by simp +decide) _)
    · exact Judge.worded_guard (Halt.worded_assertion (by simp +decide) _)
        (Judge.worded_throw_bind (hwitness e))
    · exact Judge.worded_guard (Halt.worded_assertion (by simp +decide) _)
        (Judge.worded_throw_if (Halt.worded_assertion (by simp +decide) _))
  · exact (Step.worded_modify _).bind fun _ _ => worded_closeWitness

theorem execExisting_worded {request : ExecRequest} (hpath : W.text request.path.text)
    (model : ExecModel) : (execExistingProbe request model).trial.Worded W := by
  refine Probe.trial_worded_of_invoke (Q := fun _ => True) rfl rfl ?_ fun result _ => ?_
  · exact (Step.worded_attempt (.execve request)).bind fun result _ => Step.worded_pure trivial
  · refine (worded_noteResult hpath _).bind fun _ => ?_
    refine (Judge.worded_note (by decide) (W.plain _ ?_)).bind fun _ => ?_
    · cases model <;> decide
    refine Judge.worded_guard trivial ?_
    exact Judge.worded_throw_if (Halt.worded_assertion (by decide) _)

end Lifecycle

end KernelProbe
