import KernelProbe.Proofs.Probe.Wording
import KernelProbe.Proofs.Session.Roster
import KernelProbe.Proofs.Session.Records

/-!
# Where the entries of a run come from

A run is put together from what its probes and its teardowns go through, their records, and entries
that the run makes for itself (`Framing`). A property of journals that is `Additive` holds of a run
if it holds of these parts (`RunCourse.forall_parts`). So the records of a run are those of probes
that were shut out and of probes that ran within the run (`RunCourse.forall_records`), and a run is
orderly if its parts are: no teardown gives up unless the step of a group does.
-/

namespace KernelProbe.Battery

open Journal Staged

variable {C : Type} {filter : ProbeFilter} {group : String} {trial : Trial C} {s s' : RunSummary}
  {c c' : C} {whole j : Journal} {r : Except HarnessError Unit}

/-! ## Parts of a run -/

/-- An entry that a run makes for itself: a log entry about its course, a reading of the clock, or a
report of anything but a record. -/
inductive Framing : Entry → Prop
  | note (level : LogLevel) {message : String} (fields : List (String × LogValue))
      (h : message ≠ "Group teardown panicked") : Framing (noteEntry level message fields)
  | clock (now : Instant) : Framing ⟨.clock, now⟩
  | report {event : ReportEvent} (answer : Except HarnessError Unit)
      (h : ∀ record, event ≠ .record record) : Framing ⟨.report event, answer⟩

/-- `Φ` holds of the entries that a run makes for itself, and of what is put together from parts of
which it holds. -/
structure Additive (Φ : Journal → Prop) : Prop where
  nil : Φ []
  append : ∀ {j₁ j₂}, Φ j₁ → Φ j₂ → Φ (j₁ ++ j₂)
  framing : ∀ {e}, Framing e → Φ [e]

variable {Φ : Journal → Prop}

/-- `Φ` holds of what a probe goes through within a run, and of its record. -/
structure TrialKeeps (whole : Journal) (Φ : Journal → Prop) (group : String) (t : Trial C) :
    Prop where
  shutOut : ∀ answer, Φ [⟨.report (.record (shutOut group t.spec)), answer⟩]
  ran : ∀ {c own outcome evidence c'}, own.Sublist whole →
    (t.run c).Plays own ((outcome, evidence), c') →
    Φ own ∧ ∀ elapsed answer,
      Φ [⟨.report (.record (.of group t.spec outcome evidence elapsed)), answer⟩]

/-- `Φ` holds of what the probes and the teardown of a group go through within a run. -/
structure GroupKeeps (whole : Journal) (Φ : Journal → Prop) (g : Group) : Prop where
  opening : ∀ s, g.opening s = pure ()
  trials : ∀ t ∈ g.trials, TrialKeeps whole Φ g.name t
  teardown : ∀ {c j c'}, j.Sublist whole → (tearDown g.name g.teardown c).Plays j c' → Φ j

theorem Additive.cons (hΦ : Additive Φ) {e : Entry} (he : Framing e) (hj : Φ j) : Φ (e :: j) :=
  hΦ.append (hΦ.framing he) hj

theorem Additive.verdictEntry (hΦ : Additive Φ) (probe : String) (outcome : Outcome) :
    Φ [verdictEntry probe outcome] := by
  cases outcome <;> exact hΦ.framing (.note _ _ (by decide))

theorem Additive.checkpointed (hΦ : Additive Φ) (spec : ProbeSpec) (s : RunSummary) :
    Φ (checkpointed spec s) := by
  unfold Battery.checkpointed
  split
  · exact hΦ.cons (.note _ _ (by decide)) (hΦ.framing (.report _ nofun))
  · exact hΦ.nil

/-- What holds of a probe and its record holds of its turn. -/
theorem Turn.parts (hΦ : Additive Φ) (ht : TrialKeeps whole Φ group trial)
    (h : Turn filter group trial s c j r s' c') (hpart : j.Sublist whole) : Φ j := by
  cases h with
  | shutOut off => exact ht.shutOut r
  | checkpointRefused on may e =>
    exact hΦ.cons (.note _ _ (by decide)) (hΦ.framing (.report _ nofun))
  | beginRefused on e =>
    exact hΦ.append (hΦ.checkpointed ..) (hΦ.framing (.report _ nofun))
  | @ran on started own outcome evidence _ ended plays =>
    rw [ran_eq_attended] at hpart ⊢
    have hown : own.Sublist whole := (own_sublist_attended ..).trans
      ((List.sublist_append_left ..).trans hpart)
    obtain ⟨hran, hrecord⟩ := ht.ran hown plays
    simp only [attended]
    refine hΦ.append (hΦ.append (hΦ.append (hΦ.append (hΦ.append ?_ ?_) ?_) hran) ?_)
      (hrecord _ r)
    · exact hΦ.checkpointed ..
    · exact hΦ.framing (.report _ nofun)
    · exact hΦ.framing (.clock started)
    · exact hΦ.cons (.clock ended) (hΦ.verdictEntry ..)

/-- What holds of the turns of some probes holds of all of them one after another. -/
theorem turns_parts (hΦ : Additive Φ) {trials : List (Trial C)} {p p' : RunSummary × C}
    (ht : ∀ t ∈ trials, TrialKeeps whole Φ group t)
    (h : Each (execute filter group) trials p j r p') : j.Sublist whole → Φ j := by
  refine h.preserves (fun ts _ => ∀ t ∈ ts, TrialKeeps whole Φ group t)
    (fun _ j _ => List.Sublist j whole → Φ j) (fun _ _ => hΦ.nil) ?_ ?_ ht
  · intro _ j₁ _ j₂ _ h₁ h₂ hpart
    exact hΦ.append (h₁ ((List.sublist_append_left ..).trans hpart))
      (h₂ ((List.sublist_append_right ..).trans hpart))
  · intro t ts p j r p' ht hplays
    obtain ⟨hfirst, hothers⟩ := List.forall_mem_cons.mp ht
    exact ⟨(plays_execute hplays).parts hΦ hfirst, hothers⟩

/-- What holds of the parts of a group holds of all that the group goes through. -/
theorem GroupPart.parts {g : Group} (hΦ : Additive Φ) (hg : GroupKeeps whole Φ g)
    (h : GroupPart filter g s j r s') (hpart : j.Sublist whole) : Φ j := by
  have hnote : Framing (groupNote g) := .note _ _ (by decide)
  have hbegin {answer} : Framing ⟨.report (.beginGroup g.name), answer⟩ := .report _ nofun
  cases h with
  | refused e => exact hΦ.cons hnote (hΦ.framing hbegin)
  | @ran opening probes _ _ left teardown c opened turns tornDown =>
    rw [hg.opening] at opened
    obtain ⟨rfl, -⟩ := opened
    have hparts : List.Sublist (probes ++ teardown) whole :=
      ((List.sublist_cons_self ..).trans (List.sublist_cons_self ..)).trans hpart
    have hturns : Φ probes :=
      turns_parts hΦ hg.trials turns ((List.sublist_append_left ..).trans hparts)
    have htear : Φ teardown :=
      hg.teardown ((List.sublist_append_right ..).trans hparts) tornDown
    exact hΦ.cons hnote (hΦ.cons hbegin (hΦ.append hΦ.nil (hΦ.append hturns htear)))

/-- What holds of the parts of each group holds of all that the groups go through. -/
theorem groups_parts (hΦ : Additive Φ) {groups : List Group}
    (hgroups : ∀ g ∈ groups, GroupKeeps whole Φ g) (h : Each (runGroup filter) groups s j r s') :
    j.Sublist whole → Φ j := by
  refine h.preserves (fun gs _ => ∀ g ∈ gs, GroupKeeps whole Φ g)
    (fun _ j _ => List.Sublist j whole → Φ j) (fun _ _ => hΦ.nil) ?_ ?_ hgroups
  · intro _ j₁ _ j₂ _ h₁ h₂ hpart
    exact hΦ.append (h₁ ((List.sublist_append_left ..).trans hpart))
      (h₂ ((List.sublist_append_right ..).trans hpart))
  · intro g gs s j r s' hgroups hplays
    obtain ⟨hg, hothers⟩ := List.forall_mem_cons.mp hgroups
    exact ⟨(plays_runGroup hplays).parts hΦ hg, hothers⟩

variable {b : Battery} {runId : String} {startedAt : Int64}
  {result : Except HarnessError RunSummary}

/-- What holds of the parts of a run holds of the run. -/
theorem RunCourse.forall_parts (hΦ : Additive Φ) (hgroups : ∀ g ∈ b.groups, GroupKeeps whole Φ g)
    (h : RunCourse b runId startedAt whole result) : Φ whole := by
  have hpreface {answer} : Φ (b.preface runId startedAt answer) :=
    hΦ.cons (.note _ _ (by decide)) (hΦ.framing (.report _ nofun))
  cases h with
  | refused e => exact hpreface
  | stopped groups =>
    exact hΦ.append hpreface (groups_parts hΦ hgroups groups (List.sublist_append_right ..))
  | ended groups answer =>
    refine hΦ.append hpreface (hΦ.append ?_ ?_)
    · exact groups_parts hΦ hgroups groups
        ((List.sublist_append_left ..).trans (List.sublist_append_right ..))
    · exact hΦ.cons (.note _ _ (by decide)) (hΦ.framing (.report _ nofun))

/-! ## Records -/

theorem additive_records (P : ProbeRecord → Prop) :
    Additive fun j => ∀ record ∈ j.records, P record where
  nil := by simp [Journal.records]
  append h₁ h₂ := by
    rw [records_append]
    exact List.forall_mem_append.mpr ⟨h₁, h₂⟩
  framing he := by
    cases he with
    | note level fields h => exact List.forall_mem_nil _
    | clock now => exact List.forall_mem_nil _
    | @report event answer h =>
      cases event with
      | record record => exact absurd rfl (h record)
      | _ => exact List.forall_mem_nil _

/-- What holds of the records of probes that are shut out, and of those of probes that ran within
the run, holds of all records of the run. -/
theorem RunCourse.forall_records {P : ProbeRecord → Prop}
    (hwithin : ∀ g ∈ b.groups, ∃ calls, g.Within calls)
    (hshut : ∀ g ∈ b.groups, ∀ t ∈ g.trials, P (Battery.shutOut g.name t.spec))
    (hran : ∀ g ∈ b.groups, ∀ t ∈ g.trials, ∀ {c own outcome evidence c'}, own.Sublist whole →
      (t.run c).Plays own ((outcome, evidence), c') →
      ∀ elapsed, P (.of g.name t.spec outcome evidence elapsed))
    (h : RunCourse b runId startedAt whole result) : ∀ record ∈ whole.records, P record := by
  refine h.forall_parts (additive_records P) fun g hg => ?_
  obtain ⟨calls, hcalls⟩ := hwithin g hg
  refine ⟨hcalls.opening, fun t ht => ⟨?_, fun hown plays => ⟨?_, fun elapsed _ => ?_⟩⟩, ?_⟩
  · exact fun _ => List.forall_mem_singleton.mpr (hshut g hg t ht)
  · rw [records_of_reports_eq_nil ((hcalls.trials t ht).within plays).reports]
    exact List.forall_mem_nil _
  · exact List.forall_mem_singleton.mpr (hran g hg t ht hown plays elapsed)
  · intro _ _ _ _ htear
    obtain ⟨own, _, hplays, -, hreports⟩ := plays_tearDown htear
    rw [records_of_reports_eq_nil (hreports.trans (hcalls.teardown hplays).reports)]
    exact List.forall_mem_nil _

/-! ## Teardowns -/

theorem additive_orderly : Additive Orderly where
  nil := orderly_nil
  append h₁ h₂ := orderly_append.mpr ⟨h₁, h₂⟩
  framing he := by
    cases he with
    | note level fields h => simpa [noteEntry, Entry.log?] using h
    | clock now => simp [Entry.log?]
    | report answer h => simp [Entry.log?]

/-- A teardown whose step does not give up is orderly. -/
theorem orderly_tearDown {step : Step C Unit} {W : Wording} (hW : ∀ fault, ¬W.fault fault)
    (hstep : Step.Worded W (fun _ => True) step) (hj : j.Worded W)
    (h : (tearDown group step c).Plays j c') : j.Orderly := by
  obtain ⟨own, r, hplays, rfl⟩ := plays_tearDown_iff.mp h
  obtain ⟨hresult, horderly⟩ := hstep (worded_append.mp hj).1 hplays
  rcases r with (e | fault) | ⟨⟩
  · simpa [teardownLog] using horderly
  · exact absurd hresult (hW fault)
  · simpa [teardownLog] using horderly

/-! ## The standard battery -/

section

variable {W : Wording} {config : HarnessConfig} {missing existing : ExecRequest}

/-- What holds of every probe that is worded, and of the two probes that can give up by themselves,
holds of every probe of the standard battery. -/
theorem forall_trials {P : {C : Type} → Trial C → Prop} (hmissing : W.text missing.path.text)
    (hexisting : W.text existing.path.text)
    (hworded : ∀ {C : Type} {t : Trial C}, t.Worded W → P t)
    (hmincore : ∀ length ∈ config.mapLengths, P (Memory.mincoreProbe length config.pageSize).trial)
    (hjoin : P (Concurrency.joinProbe config.joinTimeout).trial) :
    ∀ g ∈ (ofRequests config missing existing).groups, ∀ t ∈ g.trials, P t := by
  refine List.forall_mem_cons.mpr ⟨?output, List.forall_mem_cons.mpr ⟨?identity,
    List.forall_mem_cons.mpr ⟨?files, List.forall_mem_cons.mpr ⟨?memory,
      List.forall_mem_cons.mpr ⟨?concurrency, List.forall_mem_cons.mpr ⟨?uname,
        List.forall_mem_singleton.mpr ?lifecycle⟩⟩⟩⟩⟩⟩
  case output =>
    exact List.forall_mem_cons.mpr ⟨hworded (Output.write_worded _),
      List.forall_mem_singleton.mpr (hworded (Output.writev_worded _))⟩
  case identity =>
    exact List.forall_mem_cons.mpr ⟨hworded (Identity.setThreadArea_worded _),
      List.forall_mem_cons.mpr ⟨hworded Identity.getpid_worded,
        List.forall_mem_cons.mpr ⟨hworded (Identity.gettid_worded _),
          List.forall_mem_singleton.mpr (hworded Identity.schedYield_worded)⟩⟩⟩
  case files =>
    exact List.forall_mem_cons.mpr ⟨hworded (Files.open_worded _),
      List.forall_mem_cons.mpr ⟨hworded (Files.openAt_worded ..),
        List.forall_mem_cons.mpr ⟨hworded (Files.read_worded _),
          List.forall_mem_singleton.mpr (hworded Files.close_worded)⟩⟩⟩
  case memory =>
    refine List.forall_mem_cons.mpr ⟨hworded Memory.brk_worded, fun t ht => ?_⟩
    obtain ⟨length, hlength, ht⟩ := List.mem_flatMap.mp ht
    have htriad : ∀ t ∈ Memory.triad config.pageSize length, P t :=
      List.forall_mem_cons.mpr ⟨hworded Memory.mmap_worded,
        List.forall_mem_cons.mpr ⟨hmincore length hlength,
          List.forall_mem_singleton.mpr (hworded Memory.munmap_worded)⟩⟩
    exact htriad t ht
  case concurrency =>
    exact List.forall_mem_cons.mpr ⟨hworded (Concurrency.futexWait_worded _),
      List.forall_mem_cons.mpr ⟨hworded (Concurrency.futexWake_worded _),
        List.forall_mem_cons.mpr ⟨hworded (Concurrency.clone_worded rfl),
          List.forall_mem_singleton.mpr hjoin⟩⟩⟩
  case uname => exact List.forall_mem_singleton.mpr (hworded Uname.worded)
  case lifecycle =>
    exact List.forall_mem_cons.mpr ⟨hworded (Lifecycle.execMissing_worded hmissing),
      List.forall_mem_singleton.mpr (hworded (Lifecycle.execExisting_worded hexisting _))⟩

/-- No teardown of the standard battery gives up by itself. -/
theorem teardowns_worded : ∀ g ∈ (ofRequests config missing existing).groups,
    Step.Worded W (fun _ => True) g.teardown := by
  have hnone {D : Type} : Step.Worded W (fun _ => True) (pure () : Step D Unit) :=
    Step.worded_pure trivial
  exact List.forall_mem_cons.mpr ⟨hnone, List.forall_mem_cons.mpr ⟨hnone,
    List.forall_mem_cons.mpr ⟨Files.teardown_worded,
      List.forall_mem_cons.mpr ⟨Memory.teardown_worded,
        List.forall_mem_cons.mpr ⟨Concurrency.teardown_worded, List.forall_mem_cons.mpr ⟨hnone,
          List.forall_mem_singleton.mpr Lifecycle.worded_closeWitness⟩⟩⟩⟩⟩⟩

end

end KernelProbe.Battery
