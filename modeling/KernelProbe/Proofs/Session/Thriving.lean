import KernelProbe.Proofs.Kernel.Mock
import KernelProbe.Proofs.Probe.Regions
import KernelProbe.Proofs.Program.Agreement
import KernelProbe.Proofs.Session.Roster

/-!
# Probes on a healthy kernel

`Thrives c P i t Q` says how the trial of a probe fares on the mock kernel: from contexts and
kernels with `P` it leads to contexts and kernels with `Q`, whether the filter lets it run or not,
and if it runs, it passes or is skipped as `ProbeId.Fares` says. The probes of each group thrive one
after another (`ThriveAll`). What `P` and `Q` say of the kernel is that it is healthy, and of the
context what later probes of the group count on.
-/

namespace KernelProbe

open MockKernel (Healthy serves_append serves_kernel serves_nil)

/-! ## Faring well -/

/-- The filter lets the probe run. -/
def HarnessConfig.Allows (c : HarnessConfig) (i : ProbeId) : Prop :=
  c.filter.allows i.group i.name = true

/-- Some probe that the probe counts on is let run, if there are such probes. -/
def ProbeId.Ready (allowed : ProbeId → Prop) : ProbeId → Prop
  | mincore length | munmap length => allowed (.mmap length)
  | cloneJoin => allowed .clone
  | close => allowed .openFile ∨ allowed .openAt ∨ allowed .read
  | _ => True

namespace ProbeId

variable {allowed : ProbeId → Prop} {length : UInt64}

@[simp] theorem ready_mincore : (mincore length).Ready allowed ↔ allowed (.mmap length) := Iff.rfl

@[simp] theorem ready_munmap : (munmap length).Ready allowed ↔ allowed (.mmap length) := Iff.rfl

@[simp] theorem ready_cloneJoin : cloneJoin.Ready allowed ↔ allowed .clone := Iff.rfl

@[simp] theorem ready_close :
    close.Ready allowed ↔ allowed .openFile ∨ allowed .openAt ∨ allowed .read := Iff.rfl

end ProbeId

/-- The probe passes if it is ready, and else its setup fails, so that it is skipped. -/
def ProbeId.Fares (allowed : ProbeId → Prop) (i : ProbeId) (outcome : Outcome) : Prop :=
  (i.Ready allowed ∧ outcome = .pass) ∨
    ¬ i.Ready allowed ∧ ∃ message, outcome = (ProbeError.setup message none).outcome

/-- From every time that is read, the clock reaches as far as the timeout. -/
def Journal.Punctual (timeout : Duration) (j : Journal) : Prop :=
  ∀ now ∈ j.times, now.add? timeout ≠ none

instance (timeout : Duration) (j : Journal) : Decidable (j.Punctual timeout) :=
  inferInstanceAs (Decidable (∀ now ∈ j.times, now.add? timeout ≠ none))

namespace Journal

variable {timeout : Duration} {j₁ j₂ : Journal}

/-- A part of a punctual journal is punctual. -/
theorem Punctual.of_subset (h : j₂.Punctual timeout) (hsub : j₁ ⊆ j₂) : j₁.Punctual timeout :=
  fun now hnow => h now (List.filterMap_subset _ hsub hnow)

theorem punctual_append :
    (j₁ ++ j₂).Punctual timeout ↔ j₁.Punctual timeout ∧ j₂.Punctual timeout := by
  simp only [Punctual, times_append, List.forall_mem_append]

end Journal

variable {C Obs : Type} {c : HarnessConfig} {P Q R : C → MockKernel → Prop} {i : ProbeId}

/-- A trial of a probe fares well, from contexts and kernels with `P` to those with `Q`. -/
structure Thrives (c : HarnessConfig) (P : C → MockKernel → Prop) (i : ProbeId) (t : Trial C)
    (Q : C → MockKernel → Prop) : Prop where
  name : t.spec.name = i.name
  shutOut : ¬ c.Allows i → ∀ {s m}, P s m → Q s m
  ran : c.Allows i → ∀ {s m own outcome evidence s' m'}, P s m →
    (t.run s).Plays own ((outcome, evidence), s') → m.Serves own m' → own.Punctual c.joinTimeout →
    Q s' m' ∧ i.Fares c.Allows outcome

/-- Trials of probes fare well one after another. -/
inductive ThriveAll (c : HarnessConfig) (Q : C → MockKernel → Prop) :
    (C → MockKernel → Prop) → List ProbeId → List (Trial C) → Prop
  | nil : ThriveAll c Q Q [] []
  | cons {P R i is t ts} (first : Thrives c P i t R) (rest : ThriveAll c Q R is ts) :
    ThriveAll c Q P (i :: is) (t :: ts)

/-- What a run of a probe without a cleanup goes through is its lifecycle, and log entries. -/
theorem Probe.serves_trial {p : Probe C Obs} (hp : p.cleanup = pure ()) {s s' : C} {own : Journal}
    {outcome : Outcome} {evidence : Evidence} {m m' : MockKernel}
    (h : (p.trial.run s).Plays own ((outcome, evidence), s')) (hserves : m.Serves own m') :
    ∃ j r, p.Course s j r ⟨s', evidence⟩ ∧ outcome = verdict r (.ok ()) ∧ m.Serves j m' ∧
      j ⊆ own := by
  obtain ⟨j, r, exam, j₂, cleanup, hcourse, hclean, rfl, rfl, rfl⟩ := plays_run h
  rw [hp] at hclean
  obtain ⟨rfl, rfl, rfl⟩ := Staged.plays_pure.mp hclean
  refine ⟨j, r, hcourse, rfl, ?_, ?_⟩
  · -- the entries behind the lifecycle are log entries
    refine (MockKernel.serves_of_kernel ?_).mp hserves
    have hfault := (silent_faultLog p.spec.name r).1
    have hfault' := (silent_faultLog p.spec.name (.ok () : Except Halt Unit)).1
    have herror := (silent_errorLog p.spec.name r).1
    have hcleanup := (silent_cleanupLog p.spec.name r (.ok ())).1
    simp only [Journal.kernel_append, hfault, hfault', herror, hcleanup, Journal.kernel_nil,
      List.append_nil]
  · simp only [List.append_assoc]
    exact List.subset_append_left ..

/-- A probe without a cleanup fares well if its lifecycle does. -/
theorem thrives_of_course {p : Probe C Obs} (hname : p.spec.name = i.name)
    (hp : p.cleanup = pure ()) (hout : ¬ c.Allows i → ∀ {s m}, P s m → Q s m)
    (h : c.Allows i → ∀ {s m j r exam m'}, P s m → p.Course s j r exam → m.Serves j m' →
      j.Punctual c.joinTimeout → Q exam.context m' ∧ i.Fares c.Allows (Probe.verdict r (.ok ()))) :
    Thrives c P i p.trial Q where
  name := hname
  shutOut := hout
  ran hallows {s m own outcome evidence s' m'} hinv plays hserves hclock := by
    obtain ⟨j, r, hcourse, rfl, hserves, hsub⟩ := Probe.serves_trial hp plays hserves
    exact h hallows hinv hcourse hserves (hclock.of_subset hsub)

/-- A probe that is always ready fares well if its lifecycle comes to its end. -/
theorem thrives_of_ready {p : Probe C Obs} (hname : p.spec.name = i.name)
    (hp : p.cleanup = pure ()) (hready : i.Ready c.Allows)
    (hout : ¬ c.Allows i → ∀ {s m}, P s m → Q s m)
    (h : c.Allows i → ∀ {s m j r exam m'}, P s m → p.Course s j r exam → m.Serves j m' →
      Q exam.context m' ∧ r = .ok ()) : Thrives c P i p.trial Q := by
  refine thrives_of_course hname hp hout ?_
  intro hallows s m j r exam m' hinv hcourse hserves hclock
  obtain ⟨hinv', rfl⟩ := h hallows hinv hcourse hserves
  exact ⟨hinv', .inl ⟨hready, rfl⟩⟩

/-- A setup that fails under a condition on the context fails the lifecycle under it. -/
theorem Probe.course_unready {p : Probe C Obs} {unready : C → Prop} [DecidablePred unready]
    {error : ProbeError}
    (hsetup : p.setup = (get >>= fun s => if unready s then Step.fail error else pure ()))
    {s : C} (hs : unready s) {j : Journal} {r : Except Halt Unit} {exam : Exam C}
    (h : p.Course s j r exam) : j = [] ∧ r = .error (.failed error) ∧ exam.context = s := by
  cases h with
  | setupHalts setup =>
    rw [hsetup] at setup
    obtain ⟨rfl, rfl, ⟨-, heq⟩ | ⟨hready, -⟩⟩ := Step.plays_fail_if setup
    · exact ⟨rfl, heq, rfl⟩
    · exact absurd hs hready
  | tested setup test =>
    rw [hsetup] at setup
    obtain ⟨-, -, ⟨-, heq⟩ | ⟨hready, -⟩⟩ := Step.plays_fail_if setup
    · cases heq
    · exact absurd hs hready

/-- A probe that needs something of the context fares well if that is there whenever the probe is
ready, and if its lifecycle then comes to its end. -/
theorem thrives_of_needs {p : Probe C Obs} (unready : C → Prop) [DecidablePred unready]
    {message : String} (hname : p.spec.name = i.name) (hp : p.cleanup = pure ())
    (hsetup : p.setup
      = (get >>= fun s => if unready s then Step.fail (.setup message none) else pure ()))
    (hready : ∀ {s m}, P s m → (unready s ↔ ¬ i.Ready c.Allows)) (hout : ∀ {s m}, P s m →
      (c.Allows i → unready s) → Q s m)
    (h : c.Allows i → ∀ {s m j r exam m'}, P s m → ¬ unready s → p.Course s j r exam →
      m.Serves j m' → j.Punctual c.joinTimeout → Q exam.context m' ∧ r = .ok ()) :
    Thrives c P i p.trial Q := by
  refine thrives_of_course hname hp (fun hoff _ _ hinv => hout hinv (absurd · hoff)) ?_
  intro hallows s m j r exam m' hinv hcourse hserves hclock
  by_cases hs : unready s
  · obtain ⟨rfl, rfl, hcontext⟩ := Probe.course_unready hsetup hs hcourse
    obtain rfl := serves_nil.mp hserves
    rw [hcontext]
    exact ⟨hout hinv fun _ => hs, .inr ⟨(hready hinv).mp hs, message, rfl⟩⟩
  · obtain ⟨hinv', rfl⟩ := h hallows hinv hs hcourse hserves hclock
    exact ⟨hinv', .inl ⟨not_not.mp (mt (hready hinv).mpr hs), rfl⟩⟩

variable {spare : Nat} {lengths : List UInt64}

/-! ## Output -/

namespace Output

theorem write_thrives : Thrives c (fun _ m => m.Healthy spare lengths) .write
    (writeProbe c.outputFd).trial fun _ m => m.Healthy spare lengths := by
  refine thrives_of_ready rfl rfl trivial (fun _ _ _ => id) ?_
  rintro - s m j r exam m' hm hcourse hserves
  obtain ⟨reply, rfl, hr⟩ := write_course hcourse
  obtain ⟨rfl, rfl⟩ := hserves
  refine ⟨hm.step rfl, hr.mpr ?_⟩
  rw [hm.reply_eq rfl]
  rfl

theorem writev_thrives : Thrives c (fun _ m => m.Healthy spare lengths) .writev
    (writevProbe c.outputFd).trial fun _ m => m.Healthy spare lengths := by
  refine thrives_of_ready rfl rfl trivial (fun _ _ _ => id) ?_
  rintro - s m j r exam m' hm hcourse hserves
  obtain ⟨reply, rfl, hr⟩ := writev_course hcourse
  obtain ⟨rfl, rfl⟩ := hserves
  refine ⟨hm.step rfl, hr.mpr ?_⟩
  rw [hm.reply_eq rfl]
  rfl

theorem group_thrives : ThriveAll c (fun _ m => m.Healthy spare lengths)
    (fun _ m => m.Healthy spare lengths) [.write, .writev] (group c.outputFd).trials :=
  .cons write_thrives (.cons writev_thrives .nil)

end Output

/-! ## Identity -/

namespace Identity

/-- The kernel is healthy, and the context has its process id or none. -/
def Knows (spare : Nat) (lengths : List UInt64) (s : Context) (m : MockKernel) : Prop :=
  m.Healthy spare lengths ∧ (s.pid = none ∨ s.pid = some 100)

theorem setThreadArea_thrives (hslots : c.tlsSlots.contains 12 = true) :
    Thrives c (Knows spare lengths) .setThreadArea (setThreadAreaProbe c.tlsSlots).trial
      (Knows spare lengths) := by
  refine thrives_of_ready rfl rfl trivial (fun _ _ _ => id) ?_
  rintro - s m j r exam m' ⟨hm, hpid⟩ hcourse hserves
  obtain ⟨hcontext, ⟨known, rfl, hknown, -⟩ | ⟨reply, rfl, hr⟩⟩ := setThreadArea_course hcourse
  · exact absurd (hserves.1.trans (hm.supports_eq _)) hknown
  · obtain ⟨-, rfl, rfl⟩ := hserves
    refine ⟨⟨hm.step rfl, hcontext ▸ hpid⟩, hr.mpr ⟨12, ?_, by decide, hslots⟩⟩
    rw [hm.reply_eq rfl]
    rfl

theorem getpid_thrives :
    Thrives c (Knows spare lengths) .getpid getpidProbe.trial (Knows spare lengths) := by
  refine thrives_of_ready rfl rfl trivial (fun _ _ _ => id) ?_
  rintro - s m j r exam m' ⟨hm, -⟩ hcourse hserves
  obtain ⟨reply, rfl, hreply⟩ := getpid_course hcourse
  obtain ⟨rfl, rfl⟩ := hserves
  rw [hm.reply_eq rfl] at hreply
  obtain ⟨pid, heq, -, rfl, hcontext⟩ | ⟨hnot, -⟩ := hreply
  · cases heq
    exact ⟨⟨hm.step rfl, .inr (by rw [hcontext])⟩, rfl⟩
  · exact absurd (by decide) (hnot 100 rfl)

theorem gettid_thrives (hmodel : c.threadIdModel = .matchesPid ∨ c.threadIdModel = .unchecked) :
    Thrives c (Knows spare lengths) .gettid (gettidProbe c.threadIdModel).trial
      (Knows spare lengths) := by
  have hsame : c.threadIdModel.mismatch? 100 100 = none := by
    rcases hmodel with hmodel | hmodel <;> rw [hmodel] <;> rfl
  refine thrives_of_ready rfl rfl trivial (fun _ _ _ => id) ?_
  rintro - s m j r exam m' ⟨hm, hpid⟩ hcourse hserves
  obtain ⟨-, -, -, -, reply, rfl, hnot⟩ | ⟨fetch, reply, rfl, hfetch, hr⟩ := gettid_course hcourse
  · -- the kernel does have a process id
    obtain ⟨rfl, -⟩ := hserves
    rw [hm.reply_eq rfl] at hnot
    exact absurd rfl (hnot 100)
  obtain ⟨rfl, hcontext, -⟩ | ⟨-, -, reply₀, pid, rfl, hvalue, hcontext⟩ := hfetch
  · obtain ⟨rfl, rfl⟩ := hserves
    refine ⟨⟨hm.step rfl, hcontext ▸ hpid⟩, hr.mpr ⟨100, ?_, by decide, fun pid hknown => ?_⟩⟩
    · rw [hm.reply_eq rfl]
      rfl
    · rw [hcontext] at hknown
      obtain heq | heq := hpid <;> cases hknown.symm.trans heq
      exact hsame
  · obtain ⟨rfl, rfl, rfl⟩ := hserves
    have hm₁ : (m.call .getpid).2.Healthy spare lengths := hm.step rfl
    rw [hm.reply_eq rfl] at hvalue
    cases hvalue
    refine ⟨⟨hm₁.step rfl, .inr (by rw [hcontext])⟩, hr.mpr ⟨100, ?_, by decide, ?_⟩⟩
    · rw [hm₁.reply_eq rfl]
      rfl
    · rw [hcontext]
      rintro _ ⟨⟩
      exact hsame

theorem schedYield_thrives :
    Thrives c (Knows spare lengths) .schedYield schedYieldProbe.trial (Knows spare lengths) := by
  refine thrives_of_ready rfl rfl trivial (fun _ _ _ => id) ?_
  rintro - s m j r exam m' ⟨hm, hpid⟩ hcourse hserves
  obtain ⟨reply, rfl, hr, hcontext⟩ := schedYield_course hcourse
  obtain ⟨rfl, rfl⟩ := hserves
  refine ⟨⟨hm.step rfl, hcontext ▸ hpid⟩, hr.mpr ?_⟩
  rw [hm.reply_eq rfl]
  rfl

theorem group_thrives (hslots : c.tlsSlots.contains 12 = true)
    (hmodel : c.threadIdModel = .matchesPid ∨ c.threadIdModel = .unchecked) :
    ThriveAll c (Knows spare lengths) (Knows spare lengths)
      [.setThreadArea, .getpid, .gettid, .schedYield] (group c.tlsSlots c.threadIdModel).trials :=
  .cons (setThreadArea_thrives hslots) (.cons getpid_thrives (.cons (gettid_thrives hmodel)
    (.cons schedYield_thrives .nil)))

end Identity

/-! ## Files -/

namespace Files

/-- The descriptors of the context are open and none is there twice, there are such descriptors
under a condition, and the one to read from is among them. -/
structure Holding (spare : Nat) (lengths : List UInt64) (opened : Prop) (s : Context)
    (m : MockKernel) : Prop where
  healthy : m.Healthy spare lengths
  live : s.fds ⊆ m.openFds
  nodup : s.fds.Nodup
  held : s.fds ≠ [] ↔ opened
  readable : ∀ fd, s.readFd = some fd → fd ∈ s.fds

variable {opened opened' : Prop} {s : Context} {m m' : MockKernel}

theorem holding_start (hm : m.Healthy spare lengths) : Holding spare lengths False {} m :=
  ⟨hm, List.nil_subset _, List.nodup_nil, by simp, by simp⟩

/-- What is open may grow. -/
theorem Holding.stays {n : Nat} (h : Holding n lengths opened s m)
    (hm : m'.Healthy spare lengths) (hopen : m.openFds ⊆ m'.openFds) (heq : opened ↔ opened') :
    Holding spare lengths opened' s m' :=
  ⟨hm, List.Subset.trans h.live hopen, h.nodup, h.held.trans heq, h.readable⟩

/-- Without a use for it, a descriptor to spare stays. -/
theorem Holding.spares (h : Holding (spare + 1) lengths opened s m) (heq : opened ↔ opened') :
    Holding spare lengths opened' s m :=
  h.stays (h.healthy.of_le (Nat.le_succ _)) (List.Subset.refl _) heq

/-- The descriptor that the kernel hands out next is held from then on. -/
theorem Holding.keep {n : Nat} (h : Holding n lengths opened s m) (hm : m'.Healthy spare lengths)
    (hopen : m'.openFds = m.openFds ++ [m.nextFd]) {readFd : Option Int32}
    (hread : readFd = some m.nextFd ∨ readFd = s.readFd) (hopened : opened') :
    Holding spare lengths opened' ⟨s.fds ++ [m.nextFd], readFd⟩ m' where
  healthy := hm
  live := by
    rw [hopen]
    exact List.append_subset.mpr
      ⟨List.subset_append_of_subset_left _ h.live, List.subset_append_right ..⟩
  nodup := by
    refine List.nodup_append.mpr ⟨h.nodup, List.nodup_singleton _, fun fd hfd next hnext heq => ?_⟩
    rw [List.mem_singleton.mp hnext] at heq
    exact h.healthy.nextFd_notMem (heq ▸ h.live hfd)
  held := by simp [hopened]
  readable fd hfd := by
    rcases hread with rfl | rfl
    · cases hfd
      exact List.mem_append_right _ (List.mem_singleton_self _)
    · exact List.mem_append_left _ (h.readable fd hfd)

/-- The read from the descriptor at hand comes to the end of the file. -/
theorem Holding.read (h : Holding spare lengths opened s m) {fd : Int32}
    (hfd : s.readFd = some fd) (n : Nat) :
    (m.call (.read fd n)).1 = .value { count := 0 } ∧
      Holding spare lengths opened s (m.call (.read fd n)).2 := by
  refine ⟨h.healthy.read_eq (h.live (h.readable fd hfd)) n,
    h.stays (h.healthy.step rfl) ?_ Iff.rfl⟩
  rw [h.healthy.openFds_eq rfl (by simp [Call.syscall])]
  exact List.Subset.refl _

theorem open_thrives : Thrives c (Holding (spare + 1) lengths opened) .openFile
    (openProbe nullDevice).trial (Holding spare lengths (opened ∨ c.Allows .openFile)) := by
  refine thrives_of_ready rfl rfl trivial (fun hoff _ _ h => h.spares (by simp [hoff])) ?_
  intro hon s m j r exam m' h hcourse hserves
  obtain ⟨known, rfl, hknown, -⟩ | ⟨reply, rfl, hreply⟩ := open_course hcourse
  · exact absurd (hserves.1.trans (h.healthy.supports_eq _)) hknown
  obtain ⟨-, rfl, rfl⟩ := hserves
  obtain ⟨hfd, hopen, hm⟩ := h.healthy.openFile nullDevice createFlag createMode
  have hnonneg := h.healthy.nextFd_nonneg
  rw [hfd] at hreply
  obtain ⟨fd, hvalue, hr, hcontext⟩ | ⟨hnot, -⟩ := hreply
  · cases hvalue
    rw [hcontext, if_pos hnonneg]
    exact ⟨h.keep hm hopen (.inl rfl) (.inr hon), hr.mpr hnonneg⟩
  · exact absurd rfl (hnot m.nextFd)

theorem openAt_thrives : Thrives c (Holding (spare + 1) lengths opened) .openAt
    (openAtProbe bogusDirectory nullDevice).trial
    (Holding spare lengths (opened ∨ c.Allows .openAt)) := by
  refine thrives_of_ready rfl rfl trivial (fun hoff _ _ h => h.spares (by simp [hoff])) ?_
  intro hon s m j r exam m' h hcourse hserves
  obtain ⟨reply, rfl, hreply⟩ := openAt_course hcourse
  obtain ⟨rfl, rfl⟩ := hserves
  obtain ⟨hfd, hopen, hm⟩ := h.healthy.openAt bogusDirectory nullDevice createFlag createMode
  have hnonneg := h.healthy.nextFd_nonneg
  rw [hfd] at hreply
  obtain ⟨fd, hvalue, hr, hcontext⟩ | ⟨hnot, -⟩ := hreply
  · cases hvalue
    rw [hcontext]
    exact ⟨h.keep hm hopen (.inr rfl) (.inr hon), hr.mpr hnonneg⟩
  · exact absurd rfl (hnot m.nextFd)

theorem read_thrives : Thrives c (Holding (spare + 1) lengths opened) .read
    (readProbe nullDevice).trial (Holding spare lengths (opened ∨ c.Allows .read)) := by
  refine thrives_of_ready rfl rfl trivial (fun hoff _ _ h => h.spares (by simp [hoff])) ?_
  intro hon s m j r exam m' h hcourse hserves
  obtain ⟨hfd, hopen, hm⟩ := h.healthy.openAt workingDirectory nullDevice 0 0
  obtain ⟨-, -, -, reply, rfl, hnot⟩ | ⟨fetch, fd, reply, rfl, hfetch, hr⟩ := read_course hcourse
  · -- the kernel does open the target
    obtain ⟨rfl, -⟩ := hserves
    rw [hfd] at hnot
    exact absurd rfl (hnot m.nextFd)
  obtain ⟨rfl, hread, hcontext⟩ | ⟨-, reply₀, rfl, hvalue, hcontext⟩ := hfetch
  · obtain ⟨rfl, rfl⟩ := hserves
    have hopened : opened := h.held.mp (List.ne_nil_of_mem (h.readable fd hread))
    have hs : Holding spare lengths (opened ∨ c.Allows .read) s m := h.spares (by simp [hopened])
    obtain ⟨hreply, hs'⟩ := hs.read hread 2
    rw [hcontext]
    exact ⟨hs', hr.mpr ⟨_, by rw [hreply]; rfl, rfl⟩⟩
  · obtain ⟨rfl, rfl, rfl⟩ := hserves
    rw [hfd] at hvalue
    cases hvalue
    have hs : Holding spare lengths (opened ∨ c.Allows .read) _ _ :=
      h.keep hm hopen (.inl rfl) (.inr hon)
    obtain ⟨hreply, hs'⟩ := hs.read rfl 2
    rw [hcontext]
    exact ⟨hs', hr.mpr ⟨_, by rw [hreply]; rfl, rfl⟩⟩

/-- Open descriptors, none of them twice, can be closed one after another. -/
theorem serves_closings {closed : List (Int32 × Reply Unit)} (hm : m.Healthy spare lengths)
    (hlive : closed.map Prod.fst ⊆ m.openFds) (hnodup : (closed.map Prod.fst).Nodup)
    (hserves : m.Serves (closed.map closing) m') :
    m'.Healthy spare lengths ∧ ∀ x ∈ closed, x.2.returned = .value () := by
  induction closed generalizing m with
  | nil => exact ⟨hserves ▸ hm, by simp⟩
  | cons x closed ih =>
    obtain ⟨fd, reply⟩ := x
    obtain ⟨rfl, hserves⟩ : reply = (m.call (.close fd)).1 ∧ _ := hserves
    obtain ⟨hfd, hlive⟩ := List.cons_subset.mp hlive
    obtain ⟨hnew, hnodup⟩ : fd ∉ closed.map Prod.fst ∧ _ := List.nodup_cons.mp hnodup
    obtain ⟨hreply, hopen⟩ := hm.close_eq hfd
    -- the other descriptors stay open
    have hlive' : closed.map Prod.fst ⊆ (m.call (.close fd)).2.openFds := by
      intro fd' hfd'
      rw [hopen, List.mem_erase_of_ne (ne_of_mem_of_not_mem hfd' hnew)]
      exact hlive hfd'
    obtain ⟨hm', hclosed⟩ := ih (hm.step rfl) hlive' hnodup hserves
    refine ⟨hm', List.forall_mem_cons.mpr ⟨?_, hclosed⟩⟩
    rw [hreply]
    rfl

theorem close_thrives (hopened : opened ↔ ProbeId.close.Ready c.Allows) :
    Thrives c (Holding spare lengths opened) .close closeProbe.trial
      fun _ m => m.Healthy spare lengths := by
  refine thrives_of_needs (fun s => s.fds.isEmpty = true) rfl rfl rfl (fun h => ?_)
    (fun h _ => h.healthy) ?_
  · rw [← hopened, ← h.held, not_not, List.isEmpty_iff]
  rintro - s m j r exam m' h hfds hcourse hserves -
  obtain ⟨hnil, -⟩ | ⟨-, closed, left, -, hclosed, rfl, -, hr⟩ := close_course hcourse
  · exact absurd (List.isEmpty_iff.mpr hnil) hfds
  have hsub : closed.map Prod.fst ⊆ s.fds.reverse := hclosed ▸ List.subset_append_left ..
  have hnodup : (closed.map Prod.fst ++ left).Nodup := by
    rw [← hclosed]
    exact List.nodup_reverse.mpr h.nodup
  have hlive : closed.map Prod.fst ⊆ m.openFds := fun fd hfd =>
    h.live (List.mem_reverse.mp (hsub hfd))
  obtain ⟨hm', hgood⟩ := serves_closings h.healthy hlive (List.nodup_append.mp hnodup).1 hserves
  exact ⟨hm', hr.mpr hgood⟩

theorem group_thrives : ThriveAll c (fun _ m => m.Healthy spare lengths)
    (Holding (spare + 3) lengths False) [.openFile, .openAt, .read, .close] group.trials :=
  .cons open_thrives (.cons openAt_thrives (.cons read_thrives
    (.cons (close_thrives (by simp [or_assoc])) .nil)))

end Files

/-! ## Memory -/

namespace Memory

/-- There is room for mappings of the lengths to come, and none of these is live. -/
structure Clear (spare : Nat) (todo : List UInt64) (s : Context) (m : MockKernel) : Prop where
  healthy : m.Healthy spare todo
  free : ∀ length ∈ todo, s.regions.find? length = none

/-- The lengths to come are clear, and a mapping of a length is live under a condition; it is as
long as its length says. -/
structure Mapped (spare : Nat) (todo : List UInt64) (length : UInt64) (live : Prop) (s : Context)
    (m : MockKernel) : Prop extends Clear spare todo s m where
  live : s.regions.find? length ≠ none ↔ live
  length_eq : ∀ region, s.regions.find? length = some region → region.length = length

variable {todo : List UInt64} {length : UInt64} {s : Context} {m m' : MockKernel}

theorem brk_thrives : Thrives c (Clear spare todo) .brk brkProbe.trial (Clear spare todo) := by
  refine thrives_of_ready rfl rfl trivial (fun _ _ _ => id) ?_
  rintro - s m j r exam m' h hcourse hserves
  obtain ⟨hcontext, reply, rfl, hr⟩ := brk_course hcourse
  obtain ⟨rfl, rfl⟩ := hserves
  refine ⟨⟨h.healthy.step rfl, hcontext ▸ h.free⟩, hr.mpr ⟨0x600000, ?_, by decide⟩⟩
  rw [h.healthy.reply_eq rfl]
  rfl

theorem mmap_thrives (hpage : c.pageSize = 0x1000) (hnew : length ∉ todo) :
    Thrives c (Clear spare (length :: todo)) (.mmap length) (mmapProbe length c.pageSize).trial
      (Mapped spare todo length (c.Allows (.mmap length))) := by
  refine thrives_of_ready rfl rfl trivial (fun hoff s m h => ?_) ?_
  · obtain ⟨hfree, hrest⟩ := List.forall_mem_cons.mp h.free
    exact ⟨⟨h.healthy.unused, hrest⟩, by simp [hfree, hoff], by simp [hfree]⟩
  intro hon s m j r exam m' h hcourse hserves
  obtain ⟨reply, rfl, hreply⟩ := mmap_course hcourse
  obtain ⟨rfl, rfl⟩ := hserves
  obtain ⟨hvalue, hm⟩ := h.healthy.mmap
  have hbase : m.nextMapBase ≠ 0 := fun heq => by
    have hpos := h.healthy.addresses.pos
    rw [heq] at hpos
    cases hpos
  rw [hvalue] at hreply
  obtain ⟨region, heq, -, hcontext, hr⟩ | ⟨hnull, -⟩ := hreply
  · cases heq
    have hrest : ∀ key ∈ todo, exam.context.regions.find? key = none := by
      intro key hkey
      rw [hcontext, Regions.find?_insert_of_ne (ne_of_mem_of_not_mem hkey hnew)]
      exact h.free key (List.mem_cons_of_mem _ hkey)
    refine ⟨⟨⟨hm, hrest⟩, ?_, ?_⟩, hr.mpr ?_⟩
    · simp [hcontext, hon]
    · simp only [hcontext, Regions.find?_insert_self]
      rintro _ ⟨⟩
      rfl
    · rw [hpage, isPageAligned_iff (by decide)]
      exact h.healthy.addresses.aligned
  · exact absurd (hnull _ rfl) hbase

/-- A healthy kernel fills the vector for a mapping, and writes nothing behind its entries. -/
theorem mincore_fills (hm : m.Healthy spare todo) (region : MemoryRegion) :
    ∃ bytes, (m.call (.mincore region (pageCount region.length 0x1000 + guardLength))).1.returned
        = .value bytes ∧
      Filled (pageCount region.length 0x1000)
        (filledVector (pageCount region.length 0x1000 + guardLength) bytes) := by
  refine ⟨List.replicate (pageCount region.length 0x1000) 0, ?_, ?_⟩
  · rw [hm.reply_eq rfl]
    exact congrArg (fun n => Returned.value (List.replicate n 0))
      (Nat.min_eq_left (Nat.le_add_right ..))
  · have hfilled := filled_filledVector (List.replicate (pageCount region.length 0x1000) 0)
      fun b hb => by
        rw [List.eq_of_mem_replicate hb]
        decide
    rwa [List.length_replicate] at hfilled

theorem mincore_thrives (hpage : c.pageSize = 0x1000) :
    Thrives c (Mapped spare todo length (c.Allows (.mmap length))) (.mincore length)
      (mincoreProbe length c.pageSize).trial
      (Mapped spare todo length (c.Allows (.mmap length))) := by
  rw [hpage]
  refine thrives_of_needs (fun s => (s.regions.find? length).isNone = true) rfl rfl rfl
    (fun h => ?_) (fun h _ => h) ?_
  · rw [ProbeId.ready_mincore, ← h.live, not_not, Option.isNone_iff_eq_none]
  rintro - s m j r exam m' h hfind hcourse hserves -
  have hcount : pageCount length 0x1000 + guardLength ≤ maxBufferLength := by
    have hlength := length.toNat_lt
    have hsize : (0x1000 : UInt64).toNat = 0x1000 := rfl
    simp only [pageCount, guardLength, maxBufferLength, hsize]
    omega
  obtain ⟨hcontext, ⟨-, -, hnone | hnot⟩ | ⟨region, capacity, reply, hregion, rfl, rfl, hr⟩⟩ :=
    mincore_course (by decide) hcourse
  · exact absurd (Option.isNone_iff_eq_none.mpr hnone) hfind
  · exact absurd (vectorLength_eq_ok (by decide) (Nat.lt_of_le_of_lt hcount (by decide)) hcount)
      (hnot _)
  · obtain ⟨rfl, rfl⟩ := hserves
    obtain rfl := h.length_eq region hregion
    rw [hcontext]
    exact ⟨⟨⟨h.healthy.step rfl, h.free⟩, h.live, h.length_eq⟩,
      hr.mpr (mincore_fills h.healthy region)⟩

theorem munmap_thrives (hnew : length ∉ todo) :
    Thrives c (Mapped spare todo length (c.Allows (.mmap length))) (.munmap length)
      (munmapProbe length).trial (Clear spare todo) := by
  refine thrives_of_needs (fun s => (s.regions.find? length).isNone = true) rfl rfl rfl
    (fun h => ?_) (fun h _ => h.toClear) ?_
  · rw [ProbeId.ready_munmap, ← h.live, not_not, Option.isNone_iff_eq_none]
  rintro - s m j r exam m' h hfind hcourse hserves -
  obtain ⟨-, hnone, -⟩ | ⟨region, reply, -, rfl, hcontext, hr⟩ := munmap_course hcourse
  · exact absurd (Option.isNone_iff_eq_none.mpr hnone) hfind
  obtain ⟨rfl, rfl⟩ := hserves
  refine ⟨⟨h.healthy.step rfl, fun key hkey => ?_⟩, hr.mpr ?_⟩
  · rw [hcontext, Regions.find?_erase_of_ne (ne_of_mem_of_not_mem hkey hnew)]
    exact h.free key hkey
  · rw [h.healthy.reply_eq rfl]
    rfl

theorem triads_thrive (hpage : c.pageSize = 0x1000) (hnodup : lengths.Nodup) :
    ThriveAll c (Clear spare []) (Clear spare lengths)
      (lengths.flatMap fun n => [.mmap n, .mincore n, .munmap n])
      (lengths.flatMap (triad c.pageSize)) := by
  induction lengths with
  | nil => exact .nil
  | cons length lengths ih =>
    obtain ⟨hnew, hnodup⟩ := List.nodup_cons.mp hnodup
    rw [List.flatMap_cons, List.flatMap_cons]
    exact .cons (mmap_thrives hpage hnew) (.cons (mincore_thrives hpage)
      (.cons (munmap_thrives hnew) (ih hnodup)))

theorem group_thrives (hpage : c.pageSize = 0x1000) (hnodup : lengths.Nodup) :
    ThriveAll c (Clear spare []) (Clear spare lengths)
      (.brk :: lengths.flatMap fun n => [.mmap n, .mincore n, .munmap n])
      (group lengths c.pageSize).trials :=
  .cons brk_thrives (triads_thrive hpage hnodup)

end Memory

/-! ## Concurrency -/

namespace Concurrency

/-- The kernel is healthy, a child is tracked under a condition, and it has exited. -/
structure Tracks (spare : Nat) (lengths : List UInt64) (live : Prop) (s : Context)
    (m : MockKernel) : Prop where
  healthy : m.Healthy spare lengths
  live : s.child ≠ none ↔ live
  exited : ∀ child, s.child = some child → child.word = 0

variable {live : Prop} {s : Context} {m m' : MockKernel}

theorem tracks_start (hm : m.Healthy spare lengths) : Tracks spare lengths False {} m :=
  ⟨hm, by simp, by simp⟩

/-- Only the tracked child counts. -/
theorem Tracks.of_child (h : Tracks spare lengths live s m) {s' : Context}
    (hchild : s'.child = s.child) (hm : m'.Healthy spare lengths) :
    Tracks spare lengths live s' m' :=
  ⟨hm, hchild ▸ h.live, hchild ▸ h.exited⟩

theorem futexWait_thrives : Thrives c (Tracks spare lengths live) .futexWait
    (futexWaitProbe c.waitTimeout).trial (Tracks spare lengths live) := by
  refine thrives_of_ready rfl rfl trivial (fun _ _ _ => id) ?_
  rintro - s m j r exam m' h hcourse hserves
  obtain ⟨hchild, -, reply, hkernel, hr⟩ := futexWait_course hcourse
  rw [← serves_kernel, hkernel] at hserves
  obtain ⟨rfl, rfl⟩ := hserves
  refine ⟨h.of_child hchild (h.healthy.step rfl), hr.mpr ⟨.of .futex .eagain, ?_, rfl⟩⟩
  rw [h.healthy.reply_eq rfl]
  rfl

theorem futexWake_thrives : Thrives c (Tracks spare lengths live) .futexWake
    (futexWakeProbe wakeCount).trial (Tracks spare lengths live) := by
  refine thrives_of_ready rfl rfl trivial (fun _ _ _ => id) ?_
  rintro - s m j r exam m' h hcourse hserves
  obtain ⟨hchild, reply, rfl, hr⟩ := futexWake_course hcourse
  obtain ⟨rfl, rfl⟩ := hserves
  refine ⟨h.of_child hchild (h.healthy.step rfl), hr.mpr ?_⟩
  rw [h.healthy.reply_eq rfl]
  rfl

theorem clone_thrives : Thrives c (Tracks spare lengths False) .clone
    (cloneProbe stackSize childStatus).trial (Tracks spare lengths (c.Allows .clone)) := by
  refine thrives_of_ready rfl rfl trivial (fun hoff s m h => ?_) ?_
  · exact ⟨h.healthy, h.live.trans (iff_of_false not_false hoff), h.exited⟩
  intro hon s m j r exam m' h hcourse hserves
  obtain ⟨known, rfl, hknown, -⟩ | ⟨-, reply, rfl, hreply⟩ := clone_course rfl hcourse
  · rcases hknown with hknown | hchild
    · exact absurd (hserves.1.trans (h.healthy.supports_eq _)) hknown
    · exact absurd hchild (fun hchild => h.live.mp hchild)
  obtain ⟨-, rfl, rfl⟩ := hserves
  rw [h.healthy.reply_eq rfl] at hreply
  obtain ⟨tid, hvalue, hr, hcontext⟩ | ⟨hnot, -⟩ := hreply
  · cases hvalue
    refine ⟨⟨h.healthy.step rfl, by simp [hcontext, hon], ?_⟩, hr.mpr (by decide)⟩
    rw [hcontext]
    rintro _ ⟨⟩
    rfl
  · exact absurd rfl (hnot 101)

/-- What a join asks takes nothing. -/
theorem Joining.takes_nothing {j : Journal} (h : Joining j) :
    ∀ c ∈ j.calls, MockKernel.takes c = false := by
  intro c hc
  rcases h.calls c hc with hsyscall | hsyscall <;> cases c <;>
    first | rfl | cases hsyscall

theorem join_thrives : Thrives c (Tracks spare lengths (c.Allows .clone)) .cloneJoin
    (joinProbe c.joinTimeout).trial fun _ m => m.Healthy spare lengths := by
  refine thrives_of_needs (fun s => s.child.isNone = true) rfl rfl rfl (fun h => ?_)
    (fun h _ => h.healthy) ?_
  · rw [ProbeId.ready_cloneJoin, ← h.live, not_not, Option.isNone_iff_eq_none]
  rintro - s m j r exam m' h hchild hcourse hserves hclock
  obtain ⟨child, hsome⟩ := Option.ne_none_iff_exists'.mp (mt Option.isNone_iff_eq_none.mpr hchild)
  obtain ⟨hjoin, -, -, hr⟩ := join_course hcourse
  obtain ⟨started, j₁, rfl, hload⟩ := join_begins hsome hcourse
  obtain ⟨word, j₂, rfl⟩ := hload (hclock started List.mem_cons_self)
  -- the first look finds the word as the kernel stored it
  obtain rfl : word = 0 := hserves.1.trans (h.exited child hsome)
  exact ⟨h.healthy.run hserves hjoin.takes_nothing, hr.mpr ⟨child.word, by simp⟩⟩

theorem group_thrives : ThriveAll c (fun _ m => m.Healthy spare lengths)
    (Tracks spare lengths False) [.futexWait, .futexWake, .clone, .cloneJoin]
    (group c.waitTimeout c.joinTimeout).trials :=
  .cons futexWait_thrives (.cons futexWake_thrives (.cons clone_thrives
    (.cons join_thrives .nil)))

end Concurrency

/-! ## System -/

namespace Uname

theorem probe_thrives : Thrives c (fun _ m => m.Healthy spare lengths) .uname probe.trial
    fun _ m => m.Healthy spare lengths := by
  refine thrives_of_ready rfl rfl trivial (fun _ _ _ => id) ?_
  rintro - ⟨⟩ m j r exam m' hm hcourse hserves
  obtain ⟨reply, rfl, hr⟩ := uname_course hcourse
  obtain ⟨rfl, rfl⟩ := hserves
  refine ⟨hm.step rfl, hr.mpr ⟨MockKernel.identification, ?_, by decide⟩⟩
  rw [hm.reply_eq rfl]
  rfl

theorem group_thrives : ThriveAll c (fun _ m => m.Healthy spare lengths)
    (fun _ m => m.Healthy spare lengths) [.uname] group.trials :=
  .cons probe_thrives .nil

end Uname

/-! ## Lifecycle -/

namespace Lifecycle

/-- The kernel is healthy, and no witness is open. -/
structure Idle (spare : Nat) (lengths : List UInt64) (s : Context) (m : MockKernel) : Prop where
  healthy : m.Healthy spare lengths
  closed : s.witnessFd = none

variable {missing existing : ExecRequest}

/-- The call under test fails for want of the program, and leaves the process id and the witness as
they are. -/
theorem serves_test {m m' : MockKernel} {j : Journal} {r : Except Halt Unit} {exam : Exam Context}
    {fd : Int32} (hm : m.Healthy spare lengths) (hfd : fd ∈ m.openFds)
    (hmissing : missing.path.text ≠ "/usr/statx")
    (htest : (execMissingProbe missing).Test ⟨some 100, some fd, sentinelValue⟩ j r exam)
    (hserves : m.Serves j m') :
    r = .ok () ∧ exam.context.witnessFd = some fd ∧ m'.Healthy spare lengths ∧
      fd ∈ m'.openFds := by
  have hexec := hm.execve_missing hmissing
  have hm₁ : (m.call (.execve missing)).2.Healthy spare lengths := hm.step rfl
  have hpid := hm₁.reply_eq (c := .getpid) rfl
  have hm₂ := hm₁.step (c := .getpid) rfl
  obtain ⟨hwitness, reply₁, ⟨-, ⟨rfl, fault, hret⟩ | ⟨reply₂, rfl, hnot⟩⟩ |
    ⟨reply₂, reply₃, rfl, hr⟩⟩ := execMissing_test htest
  · obtain ⟨rfl, -⟩ := hserves
    rw [hexec] at hret
    cases hret
  · obtain ⟨rfl, rfl, -⟩ := hserves
    rw [hpid] at hnot
    exact absurd rfl (hnot 100)
  obtain ⟨rfl, rfl, rfl, rfl⟩ := hserves
  have hfd₂ : fd ∈ ((m.call (.execve missing)).2.call .getpid).2.openFds := by
    rw [hm₁.openFds_eq rfl (by simp [Call.syscall]), hm.openFds_eq rfl (by simp [Call.syscall])]
    exact hfd
  refine ⟨hr.mpr ⟨⟨.of .execve .enoent, ?_, rfl⟩, ?_, { count := 0 }, ?_⟩, hwitness,
    hm₂.step rfl, ?_⟩
  · rw [hexec]
    rfl
  · rw [hpid]
    rfl
  · rw [hm₂.read_eq hfd₂]
    rfl
  · rw [hm₂.openFds_eq rfl (by simp [Call.syscall])]
    exact hfd₂

/-- The witness stays open over the call under test, so that the cleanup can close it. -/
theorem execMissing_thrives (hmissing : missing.path.text ≠ "/usr/statx") :
    Thrives c (Idle (spare + 1) lengths) .execMissing (execMissingProbe missing).trial
      (Idle spare lengths) where
  name := rfl
  shutOut _ _ _ h := ⟨h.healthy.of_le (Nat.le_succ _), h.closed⟩
  ran _ s m own outcome evidence s' m' h plays hserves _ := by
    obtain ⟨j₁, r, context, j₂, cleanup, hcourse, hclean, rfl, hkernel, -⟩ :=
      Probe.plays_trial plays
    rw [← serves_kernel, hkernel, ← Journal.kernel_append, serves_kernel, serves_append] at hserves
    obtain ⟨m₁, hserves, hserves'⟩ := hserves
    have hpid₀ := h.healthy.reply_eq (c := .getpid) rfl
    have hm₁ : (m.call .getpid).2.Healthy (spare + 1) lengths := h.healthy.step rfl
    obtain ⟨hfd₀, hopen, hm₂⟩ := hm₁.openAt Files.workingDirectory Files.nullDevice 0 0
    obtain ⟨-, -, ⟨reply, rfl, hnot⟩ | ⟨reply₁, reply₂, rfl, hnot⟩⟩ |
      ⟨reply₁, pid, reply₂, fd, rest, hpid, hfd, rfl, htest⟩ := execMissing_course hcourse
    · obtain ⟨rfl, -⟩ := hserves
      rw [hpid₀] at hnot
      exact absurd rfl (hnot 100)
    · obtain ⟨-, rfl, -⟩ := hserves
      rw [hfd₀] at hnot
      exact absurd rfl (hnot _)
    obtain ⟨rfl, rfl, hserves⟩ := hserves
    rw [hpid₀] at hpid
    rw [hfd₀] at hfd
    cases hpid
    cases hfd
    have hwitness : (m.call .getpid).2.nextFd
        ∈ ((m.call .getpid).2.call openWitness).2.openFds := by
      rw [hopen]
      exact List.mem_append_right _ (List.mem_singleton_self _)
    obtain ⟨rfl, hcontext, hm₃, hlive⟩ := serves_test hm₂ hwitness hmissing htest hserves
    obtain ⟨hnone, reply, hclose, hgave⟩ := cleanup_some hcontext hclean
    rw [← serves_kernel, hclose] at hserves'
    obtain ⟨rfl, rfl⟩ := hserves'
    refine ⟨⟨hm₃.step rfl, hnone⟩, .inl ⟨trivial, Probe.verdict_eq_pass.mpr ⟨rfl, ?_⟩⟩⟩
    intro fault heq
    obtain ⟨fault', hret⟩ := hgave.mp ⟨fault, heq⟩
    rw [(hm₃.close_eq hlive).1] at hret
    cases hret

theorem execExisting_thrives (hmodel : c.execModel = .spawn)
    (hexisting : existing.path.text = "/usr/statx") :
    Thrives c (Idle spare lengths) .execExisting (execExistingProbe existing c.execModel).trial
      (Idle spare lengths) := by
  refine thrives_of_ready rfl rfl trivial (fun _ _ _ => id) ?_
  rintro - s m j r exam m' h hcourse hserves
  obtain ⟨hcontext, reply, rfl, hr⟩ := execExisting_course hcourse
  obtain ⟨rfl, rfl⟩ := hserves
  refine ⟨⟨h.healthy.step rfl, hcontext ▸ h.closed⟩, hr.mpr ⟨hmodel, 0, ?_, Int64.le_refl 0⟩⟩
  rw [h.healthy.execve_existing hexisting]
  rfl

theorem group_thrives (hmodel : c.execModel = .spawn)
    (hmissing : missing.path.text ≠ "/usr/statx") (hexisting : existing.path.text = "/usr/statx") :
    ThriveAll c (Idle spare lengths) (Idle (spare + 1) lengths) [.execMissing, .execExisting]
      (group missing existing c.execModel).trials :=
  .cons (execMissing_thrives hmissing) (.cons (execExisting_thrives hmodel hexisting) .nil)

end Lifecycle

end KernelProbe
