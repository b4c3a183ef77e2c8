import KernelProbe.Host.Machine
import KernelProbe.Report.AuditLog
import KernelProbe.Proofs.Probe.Concurrency
import KernelProbe.Proofs.Program.Frame

/-!
# The custody of a clone child

A child runs on memory of its parent, so the handle of a child has to be tracked from the moment at
which the kernel made it until its word reads 0. `Handling` has the four things that the turn of a
probe can do about it; `Member.handling` says that no probe of the group, however it is set up, does
anything else. `clone_custody` draws from this what holds along every sequence of probes over one
context, and what the teardown behind it lets go.
-/

namespace KernelProbe.Concurrency

open Journal Staged

/-! ## Handles -/

/-- What is kept of a child while the kernel changes its word: its id and its stack. -/
def handle (child : Child) : Int32 × ThreadStack := (child.tid, child.stack)

/-- What a context is answerable for: the handle that it tracks, and the children given up. -/
def custody (c : Context) : Option (Int32 × ThreadStack) × List Child :=
  (c.child.map handle, c.abandoned)

@[simp] theorem custody_storeWord (word : UInt32) (c : Context) :
    custody (c.storeWord word) = custody c := rfl

@[simp] theorem custody_storeChildWord (word : UInt32) (c : Context) :
    custody (c.storeChildWord word) = custody c := by
  unfold custody Context.storeChildWord
  cases c.child <;> rfl

/-- The stack that a call hands to a child, with how the call came back, if it is a clone. -/
def birth? : Exchange → Option (ThreadStack × Returned Int32)
  | ⟨.clone stack _ _, reply⟩ => some (stack, reply.returned)
  | _ => none

/-- The attempts to make a child. -/
def births (j : Journal) : List (ThreadStack × Returned Int32) := j.trace.filterMap birth?

theorem births_append (j₁ j₂ : Journal) : births (j₁ ++ j₂) = births j₁ ++ births j₂ := by
  rw [births, trace_append, List.filterMap_append]
  rfl

theorem births_of_kernel {j₁ j₂ : Journal} (h : j₁.kernel = j₂.kernel) : births j₁ = births j₂ := by
  rw [births, trace_eq_of_kernel h, births]

theorem births_of_calls {j : Journal} (h : ∀ c ∈ j.calls, c.syscall ≠ .clone) : births j = [] := by
  rw [births, List.filterMap_eq_nil_iff]
  rintro ⟨c, reply⟩ hmem
  have hcall : c ∈ j.calls := by
    rw [← map_call_trace]
    exact List.mem_map_of_mem hmem
  cases c with
  | clone => exact absurd rfl (h _ hcall)
  | _ => rfl

variable {c c' : Context} {j own : Journal} {r : Except Halt Unit} {exam : Exam Context}

/-- What the turn of a probe does about the child. -/
inductive Handling (c : Context) (j : Journal) (c' : Context) : Prop
  /-- No child is made, and the handle that is tracked stays so. -/
  | stays (idle : births j = []) (same : custody c' = custody c)
  /-- No child is made, and the tracked handle goes after a last read of its word as 0. -/
  | freed (idle : births j = []) (gone : j.EndsAtZero) (same : custody c' = (none, c.abandoned))
  /-- None was tracked, and the child that the kernel made is. -/
  | made {tid : Int32} {stack : ThreadStack} (free : c.child = none)
      (born : births j = [(stack, .value tid)])
      (same : custody c' = (some (tid, stack), c.abandoned))
  /-- None was tracked, and the kernel made no child. -/
  | refused {stack : ThreadStack} {x : Returned Int32} (free : c.child = none)
      (unborn : births j = [(stack, x)]) (nothing : ∀ tid, x ≠ .value tid)
      (same : custody c' = custody c)

theorem Handling.of_kernel (h : Handling c own c') (hkernel : j.kernel = own.kernel) :
    Handling c j c' := by
  have hbirths := births_of_kernel hkernel
  cases h with
  | stays idle same => exact .stays (hbirths.trans idle) same
  | freed idle gone same =>
    refine .freed (hbirths.trans idle) ?_ same
    rwa [EndsAtZero, hkernel]
  | made free born same => exact .made free (hbirths.trans born) same
  | refused free unborn nothing same => exact .refused free (hbirths.trans unborn) nothing same

/-! ## What the probes preserve -/

theorem preserves_refusedWait (timeout : Duration) :
    Preserves custody (futexWaitProbe timeout).invoke := by
  refine Step.preserves_clock.bind fun started => preserves_get_bind fun d => ?_
  refine (Step.preserves_attemptStoring _ custody_storeWord).bind fun result => ?_
  exact Step.preserves_clock.bind fun ended => preserves_pure _

theorem preserves_wake (count : Int32) : Preserves custody (futexWakeProbe count).invoke := by
  refine preserves_get_bind fun d => ?_
  refine (Step.preserves_attemptStoring _ custody_storeWord).bind fun result => ?_
  cases result with
  | ok woken => exact preserves_pure woken
  | error e => exact preserves_throw _

theorem preserves_look (child : Child) (started deadline : Instant) (waits : Nat) :
    Preserves custody (look child started deadline waits) := by
  refine preserves_get_bind fun d => (Step.preserves_load _).bind fun word => ?_
  refine (preserves_modify (custody_storeChildWord word)).bind fun _ => ?_
  refine Step.preserves_clock.bind fun now => ?_
  split
  · exact Step.preserves_clock.bind fun ended => preserves_pure _
  · exact preserves_pure _

theorem preserves_awaitOnce (word : UInt32) (timeout : Duration) :
    Preserves custody (awaitOnce word timeout) := by
  refine (Step.preserves_attemptStoring _ custody_storeChildWord).bind fun result => ?_
  cases result with
  | ok ret => exact preserves_pure ()
  | error e =>
    by_cases hretry : isRetry e = true
    · simp only [hretry, if_true]
      exact preserves_pure ()
    · simp only [hretry]
      exact (Step.preserves_log _).bind fun _ => Step.preserves_call .schedYield

/-- However often a join waits, the child stays tracked until the join is judged. -/
theorem preserves_joinLoop (child : Child) (started deadline : Instant) (left : Nat) :
    Preserves custody (joinLoop child started deadline left) := by
  induction left with
  | zero =>
    refine (preserves_look child started deadline _).bind fun x => ?_
    cases x with
    | inl observed => exact preserves_pure observed
    | inr wait => exact preserves_throw _
  | succ left ih =>
    refine (preserves_look child started deadline _).bind fun x => ?_
    cases x with
    | inl observed => exact preserves_pure observed
    | inr wait => exact (preserves_awaitOnce wait.1 wait.2).bind fun _ => ih

theorem preserves_join (timeout : Duration) : Preserves custody (joinProbe timeout).invoke := by
  refine preserves_get_bind fun d => ?_
  cases d.child with
  | none => exact preserves_throw _
  | some child =>
    refine Step.preserves_clock.bind fun started => ?_
    cases started.add? timeout with
    | none => exact preserves_throw _
    | some deadline => exact preserves_joinLoop child started deadline maxWaits

/-! ## What each probe does -/

/-- The calls that a join makes. -/
theorem births_of_joining (h : Joining j) : births j = [] := by
  refine births_of_calls fun x hx => ?_
  rcases h.calls x hx with hcall | hcall <;> simp [hcall]

theorem futexWait_handling {timeout : Duration} (h : (futexWaitProbe timeout).Course c j r exam) :
    Handling c j exam.context := by
  obtain ⟨-, -, reply, hkernel, -⟩ := futexWait_course h
  have hidle : births j = births [⟨.call (refusedWait timeout), reply⟩] :=
    births_of_kernel hkernel
  refine .stays hidle (h.preserves (preserves_modify (custody_storeWord initialWord))
    (preserves_refusedWait timeout) fun observed d _ _ hcheck => ?_)
  rw [(eval_checkWait hcheck).1]

theorem futexWake_handling {count : Int32} (h : (futexWakeProbe count).Course c j r exam) :
    Handling c j exam.context := by
  obtain ⟨-, reply, rfl, -⟩ := futexWake_course h
  refine .stays rfl (h.preserves (preserves_pure ()) (preserves_wake count)
    fun woken d _ _ hcheck => ?_)
  rw [(eval_checkWake hcheck).1]

/-- A stack that cannot be had stops the probe before its call. -/
theorem clone_overflow {size : UInt64} {status : Int32} {fault : Fault}
    (hstack : ThreadStack.allocate size = .error fault)
    (h : (cloneProbe size status).Course c j r exam) : births j = [] ∧ exam.context = c := by
  cases h with
  | setupHalts setup =>
    obtain ⟨rfl, known, rfl, -⟩ := plays_needNoChild setup
    exact ⟨rfl, rfl⟩
  | tested setup test =>
    obtain ⟨rfl, known, rfl, -⟩ := plays_needNoChild setup
    have hinvoke : (cloneProbe size status).invoke = Step.panic fault := by
      simp only [cloneProbe, hstack]
      rfl
    cases test with
    | halts invoke =>
      rw [hinvoke] at invoke
      obtain ⟨rfl, -, rfl⟩ := Step.plays_panic.mp invoke
      exact ⟨rfl, rfl⟩
    | judged invoke check =>
      rw [hinvoke] at invoke
      obtain ⟨-, heq, -⟩ := Step.plays_panic.mp invoke
      cases heq

theorem clone_handling {size : UInt64} {status : Int32}
    (h : (cloneProbe size status).Course c j r exam) : Handling c j exam.context := by
  cases hstack : ThreadStack.allocate size with
  | error fault =>
    obtain ⟨hbirths, hcontext⟩ := clone_overflow hstack h
    exact .stays hbirths (by rw [hcontext])
  | ok stack =>
    obtain ⟨known, rfl, -, hcontext, -⟩ | ⟨hfree, reply, rfl, ⟨tid, hvalue, -, hcontext⟩ |
      ⟨hnothing, -, hcontext⟩⟩ := clone_course hstack h
    · exact .stays rfl (by rw [hcontext])
    · have hborn : births [⟨.supports .clone, .ok true⟩, ⟨.call (.clone stack 0 status), reply⟩] =
          [(stack, .value tid)] := by
        rw [← hvalue]
        rfl
      exact .made hfree hborn (by rw [hcontext]; rfl)
    · have hunborn : births [⟨.supports .clone, .ok true⟩, ⟨.call (.clone stack 0 status), reply⟩] =
          [(stack, reply.returned)] := rfl
      exact .refused hfree hunborn hnothing (by rw [hcontext])

/-- The check of a join lets go of the child if the join found it gone, and of nothing else. -/
theorem custody_checkJoin {timeout : Duration} {observed : JoinObservation}
    (h : ((joinProbe timeout).check observed).eval ⟨c, .empty⟩ = (r, exam)) :
    (observed.joined = true ∧ custody exam.context = (none, c.abandoned)) ∨
      custody exam.context = custody c := by
  simp only [joinProbe, Judge.eval_bind, Judge.eval_noteInt, Judge.eval_noteNat, Judge.eval_ite,
    Judge.eval_refute, Judge.eval_update] at h
  by_cases hjoined : observed.joined = true
  · rw [if_neg (by simp [hjoined])] at h
    cases h
    exact .inl ⟨hjoined, rfl⟩
  · rw [if_pos (by simp [hjoined])] at h
    cases h
    exact .inr rfl

theorem join_handling {timeout : Duration} (h : (joinProbe timeout).Course c j r exam) :
    Handling c j exam.context := by
  have hbirths : births j = [] := births_of_joining (join_course h).1
  cases h with
  | setupHalts setup =>
    obtain ⟨-, rfl, -⟩ := Step.plays_fail_if setup
    exact .stays hbirths rfl
  | tested setup test =>
    obtain ⟨rfl, rfl, ⟨-, heq⟩ | ⟨hchild, -⟩⟩ := Step.plays_fail_if setup
    · cases heq
    obtain ⟨child, hchild⟩ := Option.ne_none_iff_exists'.mp (by simpa using hchild)
    cases test with
    | halts invoke => exact .stays hbirths (preserves_join timeout _ _ _ _ invoke)
    | judged invoke check =>
      have hsame := preserves_join timeout _ _ _ _ invoke
      obtain ⟨hjoined, hgone⟩ | hkept := custody_checkJoin check
      · -- the handle goes, so the look that ended the join read the word as 0
        obtain ⟨-, -, ⟨_, heq, hfinds⟩ | ⟨⟨_, heq⟩, -⟩⟩ := plays_join hchild invoke
        · cases heq
          refine .freed hbirths (hfinds.last (hfinds.joined.mp hjoined)) ?_
          have habandoned := congrArg Prod.snd hsame
          exact hgone.trans (congrArg (Prod.mk none) habandoned)
        · cases heq
      · exact .stays hbirths (hkept.trans hsame)

theorem join_untracked {timeout : Duration} (hfree : c.child = none)
    (h : (joinProbe timeout).Course c j r exam) :
    j = [] ∧ r = .error (.failed (.setup "no clone child to join" none)) := by
  cases h with
  | setupHalts setup =>
    obtain ⟨rfl, -, ⟨-, heq⟩ | ⟨-, heq⟩⟩ := Step.plays_fail_if setup
    · exact ⟨rfl, heq⟩
    · cases heq
  | tested setup test =>
    obtain ⟨-, -, ⟨-, heq⟩ | ⟨hchild, -⟩⟩ := Step.plays_fail_if setup
    · cases heq
    · simp [hfree] at hchild

/-! ## Sequences of probes -/

/-- A probe of the group, set up in some way. -/
inductive Member where
  | futexWait (timeout : Duration)
  | futexWake (count : Int32)
  | clone (size : UInt64) (status : Int32)
  | join (timeout : Duration)

namespace Member

/-- The probe as a trial. -/
def trial : Member → Trial Context
  | futexWait timeout => (futexWaitProbe timeout).trial
  | futexWake count => (futexWakeProbe count).trial
  | clone size status => (cloneProbe size status).trial
  | join timeout => (joinProbe timeout).trial

theorem handling (m : Member) {outcome : Outcome} {evidence : Evidence}
    (h : (m.trial.run c).Plays own ((outcome, evidence), c')) : Handling c own c' := by
  cases m with
  | futexWait timeout =>
    obtain ⟨_, _, hcourse, -, hkernel, -⟩ := Probe.plays_trial_of_no_cleanup rfl h
    exact (futexWait_handling hcourse).of_kernel hkernel
  | futexWake count =>
    obtain ⟨_, _, hcourse, -, hkernel, -⟩ := Probe.plays_trial_of_no_cleanup rfl h
    exact (futexWake_handling hcourse).of_kernel hkernel
  | clone size status =>
    obtain ⟨_, _, hcourse, -, hkernel, -⟩ := Probe.plays_trial_of_no_cleanup rfl h
    exact (clone_handling hcourse).of_kernel hkernel
  | join timeout =>
    obtain ⟨_, _, hcourse, -, hkernel, -⟩ := Probe.plays_trial_of_no_cleanup rfl h
    exact (join_handling hcourse).of_kernel hkernel

end Member

/-- Run probes one after another, from a context to the one that they leave. -/
def runAll : List Member → Context → Program Context
  | [], c => pure c
  | m :: ms, c => do
    let (_, c) ← m.trial.run c
    runAll ms c

/-- Run probes one after another and tear the group down. -/
def episode (ms : List Member) (c : Context) : Program (Except Halt Unit × Context) := do
  let c ← runAll ms c
  teardown.run.run c

theorem runAll_append (ms : List Member) (m : Member) (c : Context) :
    runAll (ms ++ [m]) c = runAll ms c >>= fun c => m.trial.run c >>= fun x => pure x.2 := by
  induction ms generalizing c with
  | nil => rfl
  | cons m' ms ih => simp only [List.cons_append, runAll, ih, bind_assoc]

/-- If the last attempt to make a child came to nothing, no child is tracked. -/
def Settled (past : Journal) (c : Context) : Prop :=
  ∀ birth ∈ (births past).getLast?, (∀ tid, birth.2 ≠ .value tid) → c.child = none

theorem child_eq_none (h : custody c' = custody c) : c'.child = none ↔ c.child = none := by
  rw [← Option.map_eq_none_iff (f := handle), ← Option.map_eq_none_iff (f := handle)]
  exact iff_of_eq (congrArg (·.1 = none) h)

theorem Settled.step {past : Journal} (h : Settled past c) (hown : Handling c own c') :
    Settled (past ++ own) c' := by
  intro birth hlast hnothing
  rw [births_append] at hlast
  cases hown with
  | stays idle same =>
    rw [idle, List.append_nil] at hlast
    exact (child_eq_none same).mpr (h birth hlast hnothing)
  | freed idle gone same => exact Option.map_eq_none_iff.mp (congrArg Prod.fst same)
  | made free born same =>
    rw [born, List.getLast?_concat] at hlast
    cases hlast
    exact absurd rfl (hnothing _)
  | refused free unborn nothing same => exact (child_eq_none same).mpr free

theorem runAll_settled {ms : List Member} {past : Journal} (h : Settled past c)
    (hplays : (runAll ms c).Plays j c') : Settled (past ++ j) c' := by
  induction ms generalizing past c j with
  | nil =>
    obtain ⟨rfl, rfl⟩ := hplays
    simpa using h
  | cons m ms ih =>
    obtain ⟨j₁, ⟨⟨outcome, evidence⟩, c₁⟩, j₂, rfl, hfirst, hrest⟩ :=
      (Program.plays_bind ..).mp hplays
    rw [← List.append_assoc]
    exact ih (h.step (m.handling hfirst)) hrest

/-! ## Custody -/

/-- What holds of the turn of a probe, from one context to another. -/
structure Safekeeping (c : Context) (own : Journal) (c' : Context) : Prop where
  /-- The kernel is asked for a child once at most, and only while none is tracked. -/
  exclusive : births own = [] ∨ c.child = none ∧ ∃ birth, births own = [birth]
  /-- A child that the kernel made is tracked, whatever its id. -/
  tracked : ∀ stack tid, (stack, .value tid) ∈ births own →
    c'.child.map handle = some (tid, stack)
  /-- An attempt that came to nothing leaves no child. -/
  nothing : ∀ stack x, (stack, x) ∈ births own → (∀ tid, x ≠ .value tid) → c'.child = none
  /-- A handle that was tracked stays so, unless the last thing asked of the kernel was its word,
  and the word read 0. -/
  kept : ∀ child, c.child = some child →
    c'.child.map handle = some (handle child) ∨ c'.child = none ∧ own.EndsAtZero
  /-- No child is given up. -/
  abandoned : c'.abandoned = c.abandoned

theorem Handling.safekeeping (h : Handling c own c') : Safekeeping c own c' where
  exclusive := by
    cases h with
    | stays idle same => exact .inl idle
    | freed idle gone same => exact .inl idle
    | made free born same => exact .inr ⟨free, _, born⟩
    | refused free unborn nothing same => exact .inr ⟨free, _, unborn⟩
  tracked := by
    intro stack tid hmem
    cases h with
    | stays idle same => simp [idle] at hmem
    | freed idle gone same => simp [idle] at hmem
    | made free born same =>
      rw [born, List.mem_singleton] at hmem
      cases hmem
      exact congrArg Prod.fst same
    | refused free unborn nothing same =>
      rw [unborn, List.mem_singleton] at hmem
      cases hmem
      exact absurd rfl (nothing tid)
  nothing := by
    intro stack x hmem hnothing
    cases h with
    | stays idle same => simp [idle] at hmem
    | freed idle gone same => simp [idle] at hmem
    | made free born same =>
      rw [born, List.mem_singleton] at hmem
      cases hmem
      exact absurd rfl (hnothing _)
    | refused free unborn nothing same => exact (child_eq_none same).mpr free
  kept := by
    intro child hchild
    have hstays (same : custody c' = custody c) : c'.child.map handle = some (handle child) := by
      have htracked := congrArg Prod.fst same
      rw [custody, custody, hchild] at htracked
      exact htracked
    cases h with
    | stays idle same => exact .inl (hstays same)
    | freed idle gone same =>
      exact .inr ⟨Option.map_eq_none_iff.mp (congrArg Prod.fst same), gone⟩
    | made free born same => cases hchild.symm.trans free
    | refused free unborn nothing same => exact .inl (hstays same)
  abandoned := by
    cases h with
    | stays idle same => exact congrArg Prod.snd same
    | freed idle gone same => exact congrArg Prod.snd same
    | made free born same => exact congrArg Prod.snd same
    | refused free unborn nothing same => exact congrArg Prod.snd same

/-- What holds of the teardown of the group, from one context to another. -/
structure LetGo (c : Context) (own : Journal) (c' : Context) : Prop where
  /-- No child is tracked any more. -/
  untracked : c'.child = none
  /-- Without a tracked child there is nothing to do. -/
  idle : c.child = none → own = [] ∧ c' = c
  /-- The word of a tracked child is read, and decides between freeing the child and giving it up,
  with a warning. -/
  looks : ∀ child, c.child = some child → ∃ word : UInt32,
    own.kernel = [⟨.load child.word, word⟩] ∧
    c'.abandoned = (if word = 0 then c.abandoned else { child with word } :: c.abandoned) ∧
    own.logs = if word = 0 then [] else [leakWarning child]

theorem teardown_letGo (h : teardown.Plays c j r c') : r = .ok () ∧ LetGo c j c' := by
  obtain ⟨rfl, ⟨hnone, rfl, rfl⟩ | ⟨child, word, hchild, hword⟩⟩ := plays_teardown h
  · exact ⟨rfl, hnone, fun _ => ⟨rfl, rfl⟩, by simp [hnone]⟩
  have hother (child' : Child) (h' : c.child = some child') : child = child' :=
    Option.some.inj (hchild.symm.trans h')
  obtain ⟨rfl, rfl, rfl⟩ | ⟨hword, rfl, rfl⟩ := hword
  · refine ⟨rfl, rfl, by simp [hchild], fun child' hchild' => ⟨0, ?_⟩⟩
    obtain rfl := hother child' hchild'
    exact ⟨rfl, rfl, rfl⟩
  · refine ⟨rfl, rfl, by simp [hchild], fun child' hchild' => ⟨word, ?_⟩⟩
    obtain rfl := hother child' hchild'
    rw [if_neg hword, if_neg hword]
    exact ⟨rfl, rfl, rfl⟩

/-- A join without a tracked child is skipped, and asks nothing of the kernel. -/
theorem join_skipped {timeout : Duration} {outcome : Outcome} {evidence : Evidence}
    (hfree : c.child = none)
    (h : ((joinProbe timeout).trial.run c).Plays own ((outcome, evidence), c')) :
    outcome = .skipped (.of .setupFailure "no clone child to join" none) ∧ own.kernel = [] := by
  obtain ⟨j₁, lifecycle, context, j₂, cleanup, hcourse, hclean, rfl, hkernel, -⟩ :=
    Probe.plays_trial h
  obtain ⟨rfl, rfl⟩ := join_untracked hfree hcourse
  obtain ⟨rfl, -, -⟩ := plays_pure.mp hclean
  exact ⟨rfl, hkernel⟩

/-- Along any sequence of the group's probes over one context, on every kernel, the kernel is asked
for a child only while none is tracked, a child that it made is tracked until its word was read as
0, and after an attempt that came to nothing a join is skipped without a call. The teardown behind
the sequence frees a tracked child if its word reads 0, and else gives it up with a warning. -/
theorem clone_custody {κ ρ : Type} (kernel : Kernel κ) (reporter : Reporter ρ) (k : κ) (r : ρ)
    (start : Context) (ms : List Member) :
    let past := (runAll ms start).run kernel reporter k r
    let torn := (teardown.run.run past.result).run kernel reporter past.kernel past.reporter
    let whole := (episode ms start).run kernel reporter k r
    (∀ m : Member,
      let turn := (m.trial.run past.result).run kernel reporter past.kernel past.reporter
      let next := (runAll (ms ++ [m]) start).run kernel reporter k r
      (next.journal = past.journal ++ turn.journal ∧ next.result = turn.result.2) ∧
      Safekeeping past.result turn.journal turn.result.2 ∧
      ∀ timeout, m = .join timeout → past.result.child = none →
        turn.result.1.1 = .skipped (.of .setupFailure "no clone child to join" none) ∧
        turn.journal.calls = []) ∧
    Settled past.journal past.result ∧
    (whole.journal = past.journal ++ torn.journal ∧ whole.result = torn.result) ∧
    torn.result.1 = .ok () ∧ LetGo past.result torn.journal torn.result.2 := by
  intro past torn whole
  have hpast : (runAll ms start).Plays past.journal past.result := Program.run_plays ..
  have htorn : teardown.Plays past.result torn.journal torn.result.1 torn.result.2 :=
    Program.run_plays kernel reporter (teardown.run.run past.result) ..
  have hsettled : Settled past.journal past.result := by
    have hstart : Settled [] start := by simp [Settled, births]
    exact runAll_settled hstart hpast
  obtain ⟨hfine, hletGo⟩ := teardown_letGo htorn
  refine ⟨fun m => ?_, hsettled, ?_, hfine, hletGo⟩
  · intro turn next
    have hturn : (m.trial.run past.result).Plays turn.journal turn.result := Program.run_plays ..
    have hnext : next = ((runAll ms start).bind fun c => (m.trial.run c).bind fun x =>
        .pure x.2).run kernel reporter k r :=
      congrArg (·.run kernel reporter k r) (runAll_append ms m start)
    refine ⟨?_, (m.handling hturn).safekeeping, ?_⟩
    · simp only [hnext, Program.run_bind, Program.run_pure, List.append_nil]
      exact ⟨rfl, rfl⟩
    · rintro timeout rfl hfree
      obtain ⟨houtcome, hkernel⟩ := join_skipped hfree hturn
      exact ⟨houtcome, (calls_eq_of_kernel (hkernel.trans kernel_nil.symm)).trans calls_nil⟩
  · have hwhole : whole = ((runAll ms start).bind fun c => teardown.run.run c).run kernel reporter k
        r := rfl
    simp only [hwhole, Program.run_bind]
    exact ⟨rfl, rfl⟩

/-- The modelled machine makes a child, which is tracked, and gone when the teardown looks. -/
theorem clone_custody_default :
    let past := (runAll [.clone 0x4000 42] {}).run Host.Machine.kernel recording
      Host.Machine.start []
    let torn := (teardown.run.run past.result).run Host.Machine.kernel recording past.kernel
      past.reporter
    past.result.child.isSome = true ∧ LetGo past.result torn.journal torn.result.2 ∧
      torn.result.2.abandoned.length = 0 := by
  intro past torn
  obtain ⟨-, -, -, -, hletGo⟩ := clone_custody Host.Machine.kernel recording Host.Machine.start []
    {} [.clone 0x4000 42]
  exact ⟨by decide +kernel, hletGo, by decide +kernel⟩

end KernelProbe.Concurrency
