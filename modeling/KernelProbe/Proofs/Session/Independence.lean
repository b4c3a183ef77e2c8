import KernelProbe.Proofs.Probe.Dependence
import KernelProbe.Proofs.Session.Roster
import KernelProbe.Proofs.Session.Sightings
import KernelProbe.Proofs.Session.Verdicts

/-!
# A filter affects its probes and what depends on them

`ProbeId.prerequisites` lists the probes that another probe depends on. Against a kernel without
memory, two runs of the standard battery under different filters record the same outcome and the
same evidence, up to elapsed times, for every probe that both filters allow, unless they differ on
one of its prerequisites (`standard_independent`).

The proof has one relation between contexts for each probe, which says what has to be the same for
the probe (`Detached`). The probes in front of it either keep contexts so related, whether they run
in both runs or in one alone, or are prerequisites, and run in both or in neither.
-/

namespace KernelProbe

open Journal Staged

/-! ## Prerequisites -/

namespace ProbeId

/-- The probes that a probe depends on. -/
def prerequisites : ProbeId → List ProbeId
  | mincore length | munmap length => [mmap length]
  | read => [openFile]
  | close => [openFile, openAt, read]
  | futexWake => [futexWait]
  | cloneJoin => [clone]
  | _ => []

/-- Where the gettid probe needs the process id, it asks for it itself. -/
example : prerequisites .gettid = [] := rfl

/-- A probe depends on probes of its own group alone. -/
theorem group_of_mem_prerequisites {i k : ProbeId} (h : k ∈ i.prerequisites) :
    k.group = i.group := by
  cases i with
  | mincore | munmap | read | futexWake | cloneJoin =>
    rw [List.mem_singleton.mp h]
    rfl
  | close =>
    obtain rfl | h := List.mem_cons.mp h
    · rfl
    obtain rfl | h := List.mem_cons.mp h
    · rfl
    · rw [List.mem_singleton.mp h]
      rfl
  | _ => cases h

end ProbeId

variable {f : Replies}

/-! ## Detached probes -/

section

variable {C : Type} {sees : ProbeId → C → C → Prop} {S : C → C → Prop} {i : ProbeId}
  {ids later : List ProbeId} {trial : Trial C} {trials front : List (Trial C)} {c₁ c₂ d₁ d₂ : C}
  {filter₁ filter₂ : ProbeFilter} {group : String}

/-- The trial of a probe sees of the context what `sees` says, and leaves what the later probes see
as it was, unless they depend on the probe; these see what the probe left in either run. -/
structure Detached (f : Replies) (sees : ProbeId → C → C → Prop) (i : ProbeId)
    (later : List ProbeId) (trial : Trial C) : Prop where
  name : trial.spec.name = i.name
  agrees : trial.Agrees f (i = .cloneJoin) (sees i) fun _ _ => True
  keeps : ∀ k ∈ later, trial.Frames f (sees k) ∨
    i ∈ k.prerequisites ∧ trial.Agrees f False (sees k) (sees k)

/-- The trials of probes one after another are detached. -/
inductive DetachedAll (f : Replies) (sees : ProbeId → C → C → Prop) :
    List ProbeId → List (Trial C) → Prop
  | nil : DetachedAll f sees [] []
  | cons {i is t ts} (first : Detached f sees i is t) (rest : DetachedAll f sees is ts) :
    DetachedAll f sees (i :: is) (t :: ts)

/-- The probes of a group are detached, and see the same in the context that it starts from. -/
def Group.Detached (f : Replies) (g : Group) (ids : List ProbeId) : Prop :=
  ∃ sees : ProbeId → g.Context → g.Context → Prop,
    (∀ i c d, sees i c d → sees i d c) ∧ (∀ i, sees i g.start g.start) ∧
      DetachedAll f sees ids g.trials

/-- Among detached probes, those in front of a probe leave what it sees as it was, or are among its
prerequisites. -/
theorem DetachedAll.split (h : DetachedAll f sees ids trials) (hi : i ∈ ids) :
    ∃ front trial later, trials = front ++ trial :: later ∧ trial.spec.name = i.name ∧
      trial.Agrees f (i = .cloneJoin) (sees i) (fun _ _ => True) ∧
      ∀ t ∈ front, t.Frames f (sees i) ∨ ∃ k ∈ i.prerequisites, t.spec.name = k.name ∧
        t.Agrees f False (sees i) (sees i) := by
  induction h with
  | nil => cases hi
  | @cons k _ t ts first rest ih =>
    rcases List.mem_cons.mp hi with rfl | hi
    · exact ⟨[], t, ts, rfl, first.name, first.agrees, List.forall_mem_nil _⟩
    · obtain ⟨front, trial, later, rfl, hname, hagrees, hfront⟩ := ih hi
      refine ⟨t :: front, trial, later, rfl, hname, hagrees, List.forall_mem_cons.mpr ⟨?_, hfront⟩⟩
      exact (first.keeps i hi).imp_right fun ⟨hmem, hagrees⟩ => ⟨k, hmem, first.name, hagrees⟩

/-! ## Two runs -/

namespace Sighting

/-- The record is about the probe. -/
def About (i : ProbeId) (x : Sighting) : Prop := x.record.group = i.group ∧ x.record.probe = i.name

/-- The clock showed the same times in both turns, as far as each looked. -/
def SameClock (x₁ x₂ : Sighting) : Prop :=
  ∃ times, x₁.readings <+: times ∧ x₂.readings <+: times

/-- The records tell the same outcome and the same evidence, up to elapsed times. -/
structure Same (x₁ x₂ : Sighting) : Prop where
  outcome : x₁.record.outcome = x₂.record.outcome
  evidence : x₁.record.evidence.untimed = x₂.record.evidence.untimed

end Sighting

namespace Battery

/-- A turn that frames a relation keeps it, whether the probe ran or not. -/
theorem Moves.framed {on : Bool} (hframes : trial.Frames f S) (h : Moves f trial c₁ d₁ on)
    (hS : S c₁ c₂) : S d₁ c₂ := by
  cases on with
  | false =>
    obtain rfl : d₁ = c₁ := h
    exact hS
  | true =>
    obtain ⟨own, o, e, hfollows, hplays⟩ := h
    exact hframes hfollows hplays hS

/-- A probe that runs in both runs or in neither, and agrees, keeps the contexts related. -/
theorem Moves.agreed {on : Bool} (hagrees : trial.Agrees f False S S)
    (h₁ : Moves f trial c₁ d₁ on) (h₂ : Moves f trial c₂ d₂ on) (hS : S c₁ c₂) : S d₁ d₂ := by
  cases on with
  | false =>
    obtain rfl : d₁ = c₁ := h₁
    obtain rfl : d₂ = c₂ := h₂
    exact hS
  | true =>
    obtain ⟨own₁, _, _, hfollows₁, hplays₁⟩ := h₁
    obtain ⟨own₂, _, _, hfollows₂, hplays₂⟩ := h₂
    exact (hagrees hS (twin_of_not_timed hfollows₁ hfollows₂ id) hplays₁ hplays₂).2.2

/-- Contexts stay related over the turns of probes that keep them so. -/
theorem Reaches.related (hsymm : ∀ c d, S c d → S d c)
    (hfront : ∀ t ∈ front, t.Frames f S ∨
      filter₁.allows group t.spec.name = filter₂.allows group t.spec.name ∧ t.Agrees f False S S)
    (h₁ : Reaches f filter₁ group front c₁ d₁) (h₂ : Reaches f filter₂ group front c₂ d₂)
    (hS : S c₁ c₂) : S d₁ d₂ := by
  induction h₁ generalizing c₂ with
  | here c =>
    cases h₂
    exact hS
  | next move₁ rest₁ ih =>
    cases h₂ with | next move₂ rest₂ =>
    obtain ⟨hfirst, hothers⟩ := List.forall_mem_cons.mp hfront
    refine ih hothers rest₂ ?_
    rcases hfirst with hframes | ⟨heq, hagrees⟩
    · exact hsymm _ _ (move₂.framed hframes (hsymm _ _ (move₁.framed hframes hS)))
    · rw [heq] at move₁
      exact move₁.agreed hagrees move₂ hS

/-- From contexts in which a probe sees the same, it comes to the same in both runs. -/
theorem Comes.same {timed : Prop} {x₁ x₂ : Sighting}
    (hagrees : trial.Agrees f timed S fun _ _ => True) (h₁ : Comes f trial c₁ x₁ d₁)
    (h₂ : Comes f trial c₂ x₂ d₂) (hS : S c₁ c₂) (hclock : timed → x₁.SameClock x₂) :
    x₁.Same x₂ := by
  obtain ⟨own₁, started₁, ended₁, hfollows₁, hplays₁, hreadings₁⟩ := h₁.plays
  obtain ⟨own₂, started₂, ended₂, hfollows₂, hplays₂, hreadings₂⟩ := h₂.plays
  -- the readings of the probe itself stand between those of its turn
  have htwin : Twin f timed own₁ own₂ := by
    refine ⟨hfollows₁, hfollows₂, fun ht => ?_⟩
    obtain ⟨times, htimes₁, htimes₂⟩ := hclock ht
    rw [hreadings₁] at htimes₁
    rw [hreadings₂] at htimes₂
    obtain ⟨rest, rfl⟩ := htimes₁
    simp only [List.cons_append, List.cons_prefix_cons] at htimes₂
    refine ⟨_, ?_, (List.prefix_append ..).trans htimes₂.2⟩
    rw [List.append_assoc]
    exact List.prefix_append ..
  obtain ⟨houtcome, hevidence, -⟩ := hagrees hS htwin hplays₁ hplays₂
  exact ⟨houtcome, hevidence⟩

end Battery

end

/-! ## The groups -/

theorem Output.group_detached (fd : Int32) : (group fd).Detached f [.write, .writev] := by
  refine ⟨fun _ _ _ => True, fun _ _ _ _ => trivial, fun _ => trivial, ?_⟩
  refine .cons ⟨rfl, write_agrees fd, fun _ _ => .inl Trial.frames_true⟩ ?_
  exact .cons ⟨rfl, writev_agrees fd, List.forall_mem_nil _⟩ .nil

theorem Uname.group_detached : group.Detached f [.uname] :=
  ⟨fun _ _ _ => True, fun _ _ _ _ => trivial, fun _ => trivial,
    .cons ⟨rfl, agrees, List.forall_mem_nil _⟩ .nil⟩

namespace Identity

/-- The gettid probe sees the process id, if one is held. -/
def sees (f : Replies) : ProbeId → Context → Context → Prop
  | .gettid => fun c₁ c₂ => Settled f c₁ ∧ Settled f c₂
  | _ => fun _ _ => True

theorem group_detached (slots : SlotRange) (model : ThreadIdModel) :
    (group slots model).Detached f [.setThreadArea, .getpid, .gettid, .schedYield] := by
  refine ⟨sees f, ?_, ?_, ?_⟩
  · intro i c d h
    cases i <;> simp_all [sees]
  · intro i
    cases i <;> simp [sees, Settled, group]
  refine .cons ⟨rfl, setThreadArea_agrees slots, fun _ _ => .inl (setThreadArea_frames slots)⟩ ?_
  refine .cons ⟨rfl, getpid_agrees fun _ _ _ h => h, ?_⟩ ?_
  · refine List.forall_mem_cons.mpr ⟨.inl getpid_frames, ?_⟩
    exact List.forall_mem_singleton.mpr (.inl Trial.frames_true)
  refine .cons ⟨rfl, (gettid_agrees model).mono (fun _ _ h => h) fun _ _ _ => trivial, ?_⟩ ?_
  · exact List.forall_mem_singleton.mpr (.inl Trial.frames_true)
  · exact .cons ⟨rfl, schedYield_agrees, List.forall_mem_nil _⟩ .nil

end Identity

namespace Files

/-- The read probe sees the descriptor to read from, the close probe sees everything. -/
def sees : ProbeId → Context → Context → Prop
  | .read => fun c₁ c₂ => c₁.readFd = c₂.readFd
  | .close => Eq
  | _ => fun _ _ => True

theorem sees_symm (i : ProbeId) (c d : Context) (h : sees i c d) : sees i d c := by
  cases i <;> simp_all [sees]

theorem sees_refl (i : ProbeId) (c : Context) : sees i c c := by
  cases i <;> simp [sees]

theorem group_detached : group.Detached f [.openFile, .openAt, .read, .close] := by
  refine ⟨sees, sees_symm, fun i => sees_refl i _, ?_⟩
  refine .cons ⟨rfl, open_agrees _ (fun _ _ _ h => h) fun _ _ _ h => h, ?_⟩ ?_
  · refine List.forall_mem_cons.mpr ⟨.inl Trial.frames_true, List.forall_mem_cons.mpr ⟨.inr ?_,
      List.forall_mem_singleton.mpr (.inr ?_)⟩⟩
    · exact ⟨List.mem_cons_self, open_agrees _ (fun _ _ _ h => h) fun _ _ _ _ => rfl⟩
    · exact ⟨List.mem_cons_self, open_agrees (S := Eq) _ (fun _ _ _ h => by rw [h])
        fun _ _ _ h => by rw [h]⟩
  refine .cons ⟨rfl, openAt_agrees _ _ fun _ _ _ h => h, ?_⟩ ?_
  · refine List.forall_mem_cons.mpr ⟨.inl (openAt_frames ..), List.forall_mem_singleton.mpr
      (.inr ?_)⟩
    exact ⟨List.mem_cons_of_mem _ List.mem_cons_self,
      openAt_agrees (S := Eq) _ _ fun _ _ _ h => by rw [h]⟩
  refine .cons ⟨rfl, (read_agrees _ (fun _ _ h => h) fun _ _ _ _ => rfl).mono (fun _ _ h => h)
    fun _ _ _ => trivial, List.forall_mem_singleton.mpr (.inr ?_)⟩ ?_
  · have hmem : ProbeId.read ∈ ProbeId.close.prerequisites := List.mem_of_getLast? rfl
    exact ⟨hmem, read_agrees (S := Eq) _ (fun _ _ h => by rw [h])
      fun _ _ _ h => by rw [h]⟩
  · exact .cons ⟨rfl, close_agrees.mono (fun _ _ h => h) fun _ _ _ => trivial,
      List.forall_mem_nil _⟩ .nil

end Files

namespace Memory

/-- The probes of a mapping see the mapping of their length. -/
def sees : ProbeId → Context → Context → Prop
  | .mincore length | .munmap length => SameRegion length
  | _ => fun _ _ => True

theorem sees_symm (i : ProbeId) (c d : Context) (h : sees i c d) : sees i d c := by
  cases i <;> simp_all [sees, SameRegion]

theorem sees_refl (i : ProbeId) (c : Context) : sees i c c := by
  cases i <;> simp [sees, SameRegion]

theorem triads_detached {pageSize : UInt64} (hpage : pageSize ≠ 0) {lengths : List UInt64}
    (h : lengths.Nodup) :
    DetachedAll f sees (lengths.flatMap fun n => [.mmap n, .mincore n, .munmap n])
      (lengths.flatMap (triad pageSize)) := by
  induction lengths with
  | nil => exact .nil
  | cons n lengths ih =>
    obtain ⟨hn, hlengths⟩ := List.nodup_cons.mp h
    -- the probes of other lengths see nothing of what is done to this one
    have hothers : ∀ k ∈ lengths.flatMap fun n => [ProbeId.mmap n, .mincore n, .munmap n],
        (mmapProbe n pageSize).trial.Frames f (sees k) ∧
          (munmapProbe n).trial.Frames f (sees k) := by
      intro k hk
      obtain ⟨m, hm, hk⟩ := List.mem_flatMap.mp hk
      have hne : m ≠ n := fun heq => hn (heq ▸ hm)
      fin_cases hk
      · exact ⟨Trial.frames_true, Trial.frames_true⟩
      · exact ⟨mmap_frames hne, munmap_frames hne⟩
      · exact ⟨mmap_frames hne, munmap_frames hne⟩
    have hmade : (mmapProbe n pageSize).trial.Agrees f False (SameRegion n) (SameRegion n) :=
      mmap_agrees fun _ _ _ _ => Regions.find?_insert_self.trans Regions.find?_insert_self.symm
    refine .cons ⟨rfl, mmap_agrees fun _ _ _ h => h, ?_⟩ (.cons ⟨rfl, ?_, ?_⟩
      (.cons ⟨rfl, ?_, ?_⟩ (ih hlengths)))
    · refine List.forall_mem_cons.mpr ⟨.inr ⟨List.mem_cons_self, hmade⟩, ?_⟩
      refine List.forall_mem_cons.mpr ⟨.inr ⟨List.mem_cons_self, hmade⟩, ?_⟩
      exact fun k hk => .inl (hothers k hk).1
    · exact mincore_agrees.mono (fun _ _ h => h) fun _ _ _ => trivial
    · exact fun k _ => .inl (mincore_frames hpage)
    · exact munmap_agrees.mono (fun _ _ h => h) fun _ _ _ => trivial
    · exact fun k hk => .inl (hothers k hk).2

theorem group_detached {pageSize : UInt64} (hpage : pageSize ≠ 0) {lengths : List UInt64}
    (h : lengths.Nodup) : (group lengths pageSize).Detached f
      (.brk :: lengths.flatMap fun n => [.mmap n, .mincore n, .munmap n]) := by
  refine ⟨sees, sees_symm, fun i => sees_refl i _, ?_⟩
  exact .cons ⟨rfl, brk_agrees, fun _ _ => .inl brk_frames⟩ (triads_detached hpage h)

end Memory

namespace Concurrency

/-- The wake sees the futex word, the probes of the child see the child. -/
def sees : ProbeId → Context → Context → Prop
  | .futexWake => SameWord
  | .clone | .cloneJoin => SameChild
  | _ => fun _ _ => True

theorem sees_symm (i : ProbeId) (c d : Context) (h : sees i c d) : sees i d c := by
  cases i <;> simp_all [sees, SameWord, SameChild]

theorem sees_refl (i : ProbeId) (c : Context) : sees i c c := by
  cases i <;> simp [sees, SameWord, SameChild]

theorem group_detached (waitTimeout joinTimeout : Duration) :
    (group waitTimeout joinTimeout).Detached f [.futexWait, .futexWake, .clone, .cloneJoin] := by
  refine ⟨sees, sees_symm, fun i => sees_refl i _, ?_⟩
  refine .cons ⟨rfl, (futexWait_agrees waitTimeout).mono (fun _ _ h => h) fun _ _ _ => trivial,
    ?_⟩ ?_
  · refine List.forall_mem_cons.mpr ⟨.inr ⟨List.mem_cons_self, ?_⟩, ?_⟩
    · exact (futexWait_agrees waitTimeout).mono (fun _ _ _ => trivial) fun _ _ h => h
    refine List.forall_mem_cons.mpr ⟨.inl (futexWait_frames waitTimeout), ?_⟩
    exact List.forall_mem_singleton.mpr (.inl (futexWait_frames waitTimeout))
  refine .cons ⟨rfl, (futexWake_agrees wakeCount).mono (fun _ _ h => h) fun _ _ _ => trivial,
    ?_⟩ ?_
  · refine List.forall_mem_cons.mpr ⟨.inl (futexWake_frames wakeCount), ?_⟩
    exact List.forall_mem_singleton.mpr (.inl (futexWake_frames wakeCount))
  refine .cons ⟨rfl, (clone_agrees stackSize childStatus).mono (fun _ _ h => h)
    fun _ _ _ => trivial, List.forall_mem_singleton.mpr (.inr ⟨List.mem_cons_self, ?_⟩)⟩ ?_
  · exact clone_agrees stackSize childStatus
  · exact .cons ⟨rfl, (join_agrees rfl joinTimeout).mono (fun _ _ h => h) fun _ _ _ => trivial,
      List.forall_mem_nil _⟩ .nil

end Concurrency

namespace Lifecycle

/-- The probe of the missing path sees everything, that of an existing program nothing. -/
def sees : ProbeId → Context → Context → Prop
  | .execMissing => Eq
  | _ => fun _ _ => True

theorem sees_symm (i : ProbeId) (c d : Context) (h : sees i c d) : sees i d c := by
  cases i <;> simp_all [sees]

theorem sees_refl (i : ProbeId) (c : Context) : sees i c c := by
  cases i <;> simp [sees]

theorem group_detached (missing existing : ExecRequest) (model : ExecModel) :
    (group missing existing model).Detached f [.execMissing, .execExisting] := by
  refine ⟨sees, sees_symm, fun i => sees_refl i _, ?_⟩
  refine .cons ⟨rfl, (execMissing_agrees missing).mono (fun _ _ h => h) fun _ _ _ => trivial,
    List.forall_mem_singleton.mpr (.inl Trial.frames_true)⟩ ?_
  exact .cons ⟨rfl, execExisting_agrees existing model, List.forall_mem_nil _⟩ .nil

end Lifecycle

/-! ## The standard battery -/

/-- Nothing that an accepted configuration guarantees depends on the filter. -/
theorem HarnessConfig.Sound.refilter {c : HarnessConfig} {missing existing : ExecRequest}
    (hc : c.Sound missing existing) (filter : ProbeFilter) :
    Sound { c with filter } missing existing :=
  ⟨hc.pageSize, hc.distinct, hc.slots, hc.missing, hc.existing⟩

namespace Battery

variable {c : HarnessConfig} {missing existing : ExecRequest}

/-- In every group of a standard battery, the probes are detached. -/
theorem detached_ofRequests (hc : c.Sound missing existing) :
    List.Forall₂ (Group.Detached f) (ofRequests c missing existing).groups
      (roster c.mapLengths) := by
  refine .cons (Output.group_detached _) (.cons (Identity.group_detached ..) ?_)
  refine .cons Files.group_detached (.cons (Memory.group_detached hc.pageSize hc.distinct) ?_)
  refine .cons (Concurrency.group_detached ..) (.cons Uname.group_detached ?_)
  exact .cons (Lifecycle.group_detached ..) .nil

/-- A probe of the roster is in a group that names it once, and is detached there. -/
theorem group_of_roster (f : Replies) (hc : c.Sound missing existing) {i : ProbeId}
    (hi : i ∈ (roster c.mapLengths).flatten) :
    ∃ g ∈ (ofRequests c missing existing).groups, ∃ ids, i ∈ ids ∧ i.group = g.name ∧
      (g.trials.map (·.spec.name)).Nodup ∧ g.Detached f ids := by
  obtain ⟨ids, hids, hi⟩ := List.mem_flatten.mp hi
  have hnodup : ids.Nodup := (List.nodup_flatten.mp (nodup_roster hc.distinct)).1 ids hids
  obtain ⟨n, hn, rfl⟩ := List.mem_iff_getElem.mp hids
  have hnames := @groups_ofRequests c missing existing
  have hn' : n < (ofRequests c missing existing).groups.length := hnames.length_eq ▸ hn
  refine ⟨_, List.getElem_mem hn', _, hi, (hnames.get hn' hn).2 i hi, ?_,
    (detached_ofRequests hc).get hn' hn⟩
  show List.Nodup (((ofRequests c missing existing).groups.get ⟨n, hn'⟩).trials.map (·.spec.name))
  rw [(hnames.get hn' hn).1]
  exact hnodup.map fun _ _ => ProbeId.name_inj

variable {b₁ b₂ : Battery} {runId runId₁ runId₂ : String} {startedAt startedAt₁ startedAt₂ : Int64}
  {j j₁ j₂ : Journal} {result result₁ result₂ : Except HarnessError RunSummary}
  {filter₁ filter₂ : ProbeFilter} {i : ProbeId} {x₁ x₂ : Sighting}

/-- Two runs under filters that agree on the prerequisites of a probe record the same of it. -/
theorem RunCourse.same (hc : c.Sound missing existing)
    (h₁ : RunCourse (ofRequests { c with filter := filter₁ } missing existing) runId₁ startedAt₁ j₁
      result₁)
    (h₂ : RunCourse (ofRequests { c with filter := filter₂ } missing existing) runId₂ startedAt₂ j₂
      result₂)
    (hfollows₁ : j₁.Follows f) (hfollows₂ : j₂.Follows f) (hi : i ∈ (roster c.mapLengths).flatten)
    (on₁ : filter₁.allows i.group i.name = true) (on₂ : filter₂.allows i.group i.name = true)
    (hagree : ∀ k ∈ i.prerequisites,
      filter₁.allows k.group k.name = filter₂.allows k.group k.name)
    (hx₁ : x₁ ∈ j₁.sightings []) (hx₂ : x₂ ∈ j₂.sightings []) (about₁ : x₁.About i)
    (about₂ : x₂.About i) (hclock : i = .cloneJoin → x₁.SameClock x₂) : x₁.Same x₂ := by
  obtain ⟨g, hg, ids, hids, hgroup, hnames, sees, hsymm, hstart, hdetached⟩ :=
    group_of_roster f hc hi
  obtain ⟨front, trial, later, htrials, hname, hagrees, hfront⟩ := hdetached.split hids
  rw [hgroup, ← hname] at on₁ on₂
  obtain ⟨c₁, d₁, hreaches₁, hcomes₁⟩ := h₁.reached hfollows₁
    (within_ofRequests (hc.refilter filter₁)) nodup_names hg htrials hnames on₁ hx₁
    (about₁.1.trans hgroup) (about₁.2.trans hname.symm)
  obtain ⟨c₂, d₂, hreaches₂, hcomes₂⟩ := h₂.reached hfollows₂
    (within_ofRequests (hc.refilter filter₂)) nodup_names hg htrials hnames on₂ hx₂
    (about₂.1.trans hgroup) (about₂.2.trans hname.symm)
  -- the turns in front of the probe leave what it sees the same in both runs
  refine hcomes₁.same hagrees hcomes₂ (hreaches₁.related (hsymm i) ?_ hreaches₂ (hstart i)) hclock
  intro t ht
  refine (hfront t ht).imp_right ?_
  rintro ⟨k, hk, hkname, hkagrees⟩
  have heq := hagree k hk
  rw [ProbeId.group_of_mem_prerequisites hk, hgroup, ← hkname] at heq
  exact ⟨heq, hkagrees⟩

/-- If every event is taken, a run records every probe of the roster. -/
theorem RunCourse.sights (hc : c.Sound missing existing)
    (h : RunCourse (ofRequests c missing existing) runId startedAt j result)
    (accepted : j.Accepted) (hi : i ∈ (roster c.mapLengths).flatten) :
    ∃ x ∈ j.sightings [], x.About i := by
  obtain ⟨summary, -, -, -, -, hmatch⟩ := h.completed (within_ofRequests hc) accepted
  have hplan : (i.group, i.name) ∈ (ofRequests c missing existing).plan.map
      fun entry => (entry.group, entry.spec.name) := by
    rw [map_name_plan]
    exact List.mem_map_of_mem hi
  have hrecords : j.records.map (fun record => (record.group, record.probe))
      = (ofRequests c missing existing).plan.map fun entry => (entry.group, entry.spec.name) := by
    simpa [Function.comp_def] using
      congrArg (List.map fun names => (names.1, names.2.1)) (names_of_matches hmatch)
  rw [← hrecords, ← map_record_sightings [], List.map_map] at hplan
  obtain ⟨x, hx, heq⟩ := List.mem_map.mp hplan
  exact ⟨x, hx, Prod.ext_iff.mp heq⟩

/-- On kernels that have no memory and give the same answers, two runs of the standard battery that
differ in their filters record the same outcome and the same evidence, up to elapsed times, for
every probe that both filters allow, unless the filters differ on one of its prerequisites, which
are probes of its own group; for the join this takes the same readings of the clock. If the
reporters take every event, both runs record the probe. -/
theorem standard_independent {κ₁ κ₂ ρ₁ ρ₂ : Type} {kernel₁ : Kernel κ₁} {kernel₂ : Kernel κ₂}
    {f : Replies} (answers₁ : kernel₁.Answers f) (answers₂ : kernel₂.Answers f)
    (reporter₁ : Reporter ρ₁) (reporter₂ : Reporter ρ₂) (k₁ : κ₁) (k₂ : κ₂) (r₁ : ρ₁) (r₂ : ρ₂)
    {c : HarnessConfig} {filter₁ filter₂ : ProbeFilter} {b₁ b₂ : Battery}
    (hb₁ : standard { c with filter := filter₁ } = .ok b₁)
    (hb₂ : standard { c with filter := filter₂ } = .ok b₂) (runId₁ runId₂ : String)
    (startedAt₁ startedAt₂ : Int64) {i : ProbeId} (hi : i ∈ (roster c.mapLengths).flatten)
    (on₁ : filter₁.allows i.group i.name = true) (on₂ : filter₂.allows i.group i.name = true)
    (hagree : ∀ k ∈ i.prerequisites,
      filter₁.allows k.group k.name = filter₂.allows k.group k.name) :
    (∀ x₁ ∈ ((b₁.run runId₁ startedAt₁).run kernel₁ reporter₁ k₁ r₁).journal.sightings [],
      ∀ x₂ ∈ ((b₂.run runId₂ startedAt₂).run kernel₂ reporter₂ k₂ r₂).journal.sightings [],
        x₁.About i → x₂.About i → (i = .cloneJoin → x₁.SameClock x₂) → x₁.Same x₂) ∧
      ((∀ event r, (reporter₁.receive event r).1 = .ok ()) →
        ∃ x₁ ∈ ((b₁.run runId₁ startedAt₁).run kernel₁ reporter₁ k₁ r₁).journal.sightings [],
          x₁.About i) ∧
      ((∀ event r, (reporter₂.receive event r).1 = .ok ()) →
        ∃ x₂ ∈ ((b₂.run runId₂ startedAt₂).run kernel₂ reporter₂ k₂ r₂).journal.sightings [],
          x₂.About i) ∧
      ∀ k ∈ i.prerequisites, k.group = i.group := by
  obtain ⟨missing, existing, hc₁, rfl⟩ := standard_eq_ok hb₁
  obtain ⟨missing', existing', hc₂, rfl⟩ := standard_eq_ok hb₂
  -- the requests do not depend on the filter
  obtain rfl : missing = missing' := by
    exact Except.ok.inj (hc₁.missing.symm.trans hc₂.missing)
  obtain rfl : existing = existing' := by
    exact Except.ok.inj (hc₁.existing.symm.trans hc₂.existing)
  have hc : c.Sound missing existing := hc₁.refilter c.filter
  have hcourse₁ := plays_run (Program.run_plays kernel₁ reporter₁
    ((ofRequests { c with filter := filter₁ } missing existing).run runId₁ startedAt₁) k₁ r₁)
  have hcourse₂ := plays_run (Program.run_plays kernel₂ reporter₂
    ((ofRequests { c with filter := filter₂ } missing existing).run runId₂ startedAt₂) k₂ r₂)
  refine ⟨fun x₁ hx₁ x₂ hx₂ about₁ about₂ hclock => ?_, fun takes => ?_, fun takes => ?_,
    fun k hk => ProbeId.group_of_mem_prerequisites hk⟩
  · exact hcourse₁.same hc hcourse₂ (Program.run_follows answers₁ reporter₁ _ k₁ r₁)
      (Program.run_follows answers₂ reporter₂ _ k₂ r₂) hi on₁ on₂ hagree hx₁ hx₂ about₁ about₂
      hclock
  · exact hcourse₁.sights hc₁ (Program.run_accepted kernel₁ reporter₁ takes _ k₁ r₁) hi
  · exact hcourse₂.sights hc₂ (Program.run_accepted kernel₂ reporter₂ takes _ k₂ r₂) hi

/-- The answers of a kernel that knows the ids of its only thread and makes no other call. -/
def onlyIds : Replies where
  supports _ := .ok true
  call
    | .getpid | .gettid => .value 1
    | c => .failed ⟨c.syscall, -38, .enosys⟩
  load last := last

/-- Whether the getpid probe is skipped or not, the gettid probe is recorded with the same outcome
and evidence. -/
theorem standard_independent_gettid : ∃ b₁ b₂,
    standard { filter := { skip := ["getpid"] } } = .ok b₁ ∧ standard {} = .ok b₂ ∧
    (∀ k ∈ ProbeId.gettid.prerequisites,
      ({ skip := ["getpid"] } : ProbeFilter).allows k.group k.name
        = ({} : ProbeFilter).allows k.group k.name) ∧
    ∃ x₁ ∈ ((b₁.run "first" 0).run (onlyIds.kernel ⟨0⟩) recording () []).journal.sightings [],
    ∃ x₂ ∈ ((b₂.run "second" 0).run (onlyIds.kernel ⟨0⟩) recording () []).journal.sightings [],
      x₁.Same x₂ := by
  have hb₁ : standard { ({} : HarnessConfig) with filter := { skip := ["getpid"] } } = .ok _ := rfl
  have hb₂ : standard { ({} : HarnessConfig) with filter := {} } = .ok _ := rfl
  have hind := standard_independent (i := .gettid) (onlyIds.answers_kernel ⟨0⟩)
    (onlyIds.answers_kernel ⟨0⟩) recording recording () () [] [] hb₁ hb₂ "first" "second" 0 0
    (by decide) (by decide) (by decide) (List.forall_mem_nil _)
  refine ⟨_, _, hb₁, hb₂, List.forall_mem_nil _, ?_⟩
  obtain ⟨x₁, hx₁, about₁⟩ := hind.2.1 fun _ _ => rfl
  obtain ⟨x₂, hx₂, about₂⟩ := hind.2.2.1 fun _ _ => rfl
  exact ⟨x₁, hx₁, x₂, hx₂, hind.1 x₁ hx₁ x₂ hx₂ about₁ about₂ (by simp)⟩

end Battery

end KernelProbe
