import Mathlib.Data.List.Nodup
import KernelProbe.Proofs.Probe.Agreement
import KernelProbe.Proofs.Session.Records

/-!
# Records and how they came about

`Journal.sightings` lists the records of a journal, each with the readings of the clock since its
probe was begun. In a run of a battery against a kernel without memory, what a record of an enabled
probe says is what the probe comes to from a context that the turns in front of it can reach
(`RunCourse.reached`): nothing else of the run matters to it, and nothing of other groups.
-/

namespace KernelProbe

/-! ## Sightings -/

/-- A record with the readings of the clock since its probe was begun. -/
structure Sighting where
  /-- The record. -/
  record : ProbeRecord
  /-- The readings, the first one first. -/
  readings : List Instant

/-- The record, if the entry reports one. -/
def Entry.record? (e : Entry) : Option ProbeRecord :=
  match e.request with
  | .report (.record record) => some record
  | _ => none

/-- The readings of the clock since a probe was begun, one entry later. -/
def Entry.tick (readings : List Instant) (e : Entry) : List Instant :=
  match e.request with
  | .report (.beginProbe _ _) => []
  | _ => readings ++ e.time?.toList

namespace Journal

/-- The readings of the clock since a probe was begun, a journal later. -/
def ticked (readings : List Instant) (j : Journal) : List Instant := j.foldl Entry.tick readings

/-- The records, each with the readings of the clock since its probe was begun. -/
def sightings (readings : List Instant) : Journal → List Sighting
  | [] => []
  | e :: j => (e.record?.map (⟨·, readings⟩)).toList ++ sightings (e.tick readings) j

variable {readings : List Instant} {j j₁ j₂ : Journal} {f : Replies}

theorem ticked_append : ticked readings (j₁ ++ j₂) = ticked (ticked readings j₁) j₂ :=
  List.foldl_append

@[simp] theorem sightings_append :
    sightings readings (j₁ ++ j₂) = sightings readings j₁ ++ sightings (ticked readings j₁) j₂ := by
  induction j₁ generalizing readings with
  | nil => rfl
  | cons e j₁ ih =>
    rw [List.cons_append, sightings, sightings, ih, List.append_assoc]
    rfl

/-- Every record is sighted once, in order. -/
theorem map_record_sightings (readings : List Instant) (j : Journal) :
    (sightings readings j).map (·.record) = j.records := by
  induction j generalizing readings with
  | nil => rfl
  | cons e j ih =>
    rw [sightings, List.map_append, ih, records, records, reports_cons, List.filterMap_append]
    congr 1
    obtain ⟨q, answer⟩ := e
    cases q with
    | report event => cases event <;> rfl
    | _ => rfl

theorem sightings_of_records_eq_nil (h : j.records = []) : sightings readings j = [] := by
  rw [← List.map_eq_nil_iff, map_record_sightings, h]

/-- Where no probe is begun, all readings add up. -/
theorem ticked_of_reports_eq_nil (h : j.reports = []) :
    ticked readings j = readings ++ j.times := by
  induction j generalizing readings with
  | nil => simp [ticked, times]
  | cons e j ih =>
    rw [reports_cons, List.append_eq_nil_iff] at h
    show ticked (e.tick readings) j = readings ++ times ([e] ++ j)
    rw [ih h.2, times_append, ← List.append_assoc]
    congr 1
    obtain ⟨q, answer⟩ := e
    cases q with
    | report event => simp [Entry.report?] at h
    | _ => rfl

end Journal

namespace Battery

open Journal Staged

variable {C : Type} {calls : List Syscall} {filter : ProbeFilter} {group : String} {trial : Trial C}
  {trials : List (Trial C)} {s s' : RunSummary} {c c' : C} {j : Journal}
  {r : Except HarnessError Unit} {readings : List Instant} {f : Replies} {x : Sighting}

/-! ## Turns -/

/-- A probe that ran is sighted with the readings of its turn. -/
theorem sightings_attended (group : String) (spec : ProbeSpec) (started ended : Instant)
    {own : Journal} (outcome : Outcome) (record : ProbeRecord) (hown : own.reports = []) :
    sightings readings (attended group spec s started ended own outcome ++
        [⟨.report (.record record), r⟩])
      = [⟨record, started :: own.times ++ [ended]⟩] := by
  have hreadings : ticked readings (attended group spec s started ended own outcome)
      = started :: own.times ++ [ended] := by
    have hend : times [⟨.clock, ended⟩, verdictEntry spec.name outcome] = [ended] := by
      cases outcome <;> rfl
    rw [attended, ticked_append, ticked_append, ticked_append,
      ticked_of_reports_eq_nil (silent_verdict ended spec.name outcome).2, hend,
      ticked_of_reports_eq_nil hown, ticked_append]
    rfl
  rw [sightings_append, hreadings,
    sightings_of_records_eq_nil (records_of_undivided (attended_undivided group hown))]
  rfl

/-- The record of the sighting is what the probe comes to from the context. -/
structure Comes (f : Replies) (trial : Trial C) (c : C) (x : Sighting) (c' : C) : Prop where
  plays : ∃ own started ended, own.Follows f ∧
    (trial.run c).Plays own ((x.record.outcome, x.record.evidence), c') ∧
    x.readings = started :: own.times ++ [ended]

/-- What the turn of a probe shows, and where it leaves the context. -/
inductive Shows (f : Replies) (filter : ProbeFilter) (group : String) (trial : Trial C) (c : C) :
    List Sighting → Except HarnessError Unit → C → Prop
  /-- The filter shuts the probe out. -/
  | shutOut (off : filter.allows group trial.spec.name = false) (readings : List Instant)
      (r : Except HarnessError Unit) :
      Shows f filter group trial c [⟨Battery.shutOut group trial.spec, readings⟩] r c
  /-- The reporter refuses the probe. -/
  | refused (e : HarnessError) : Shows f filter group trial c [] (.error e) c
  /-- The probe ran. -/
  | ran (on : filter.allows group trial.spec.name = true) {x : Sighting} {c' : C}
      (names : x.record.group = group ∧ x.record.probe = trial.spec.name)
      (comes : Comes f trial c x c') (r : Except HarnessError Unit) :
      Shows f filter group trial c [x] r c'

theorem Turn.shows (readings : List Instant) (ht : trial.Within calls) (hfollows : j.Follows f)
    (h : Turn filter group trial s c j r s' c') :
    Shows f filter group trial c (j.sightings readings) r c' := by
  cases h with
  | shutOut off answer => exact .shutOut off readings r
  | checkpointRefused on may e => exact .refused e
  | beginRefused on e =>
    rw [sightings_of_records_eq_nil]
    · exact .refused e
    · rw [records_append, records_of_undivided (checkpointed_silent trial.spec s).2]
      rfl
  | @ran on started own outcome evidence _ ended plays _ =>
    have hown := (ht.within plays).reports
    rw [ran_eq_attended] at hfollows ⊢
    rw [sightings_attended _ _ _ _ _ _ hown]
    simp only [attended, follows_append] at hfollows
    exact .ran on ⟨rfl, rfl⟩ ⟨own, started, ended, hfollows.1.1.2, plays, rfl⟩ r

/-! ## Turns in front of a probe -/

/-- The turn of a probe can take one context to the other. -/
def Moves (f : Replies) (trial : Trial C) (c c' : C) : Bool → Prop
  | true => ∃ own o e, own.Follows f ∧ (trial.run c).Plays own ((o, e), c')
  | false => c' = c

/-- The turns of probes can take one context to the other. -/
inductive Reaches (f : Replies) (filter : ProbeFilter) (group : String) :
    List (Trial C) → C → C → Prop
  | here (c : C) : Reaches f filter group [] c c
  | next {trial : Trial C} {trials : List (Trial C)} {c c₁ c' : C}
      (move : Moves f trial c c₁ (filter.allows group trial.spec.name))
      (rest : Reaches f filter group trials c₁ c') : Reaches f filter group (trial :: trials) c c'

theorem Shows.moves {l : List Sighting} (h : Shows f filter group trial c l (.ok ()) c') :
    Moves f trial c c' (filter.allows group trial.spec.name) := by
  cases h with
  | shutOut off => rw [off]; rfl
  | ran on names comes =>
    obtain ⟨own, _, _, hfollows, hplays, -⟩ := comes.plays
    rw [on]
    exact ⟨own, _, _, hfollows, hplays⟩

theorem Shows.names {l : List Sighting} (h : Shows f filter group trial c l r c') (hx : x ∈ l) :
    x.record.group = group ∧ x.record.probe = trial.spec.name := by
  cases h with
  | shutOut off readings r =>
    obtain rfl := List.mem_singleton.mp hx
    exact ⟨rfl, rfl⟩
  | refused => cases hx
  | ran on names =>
    obtain rfl := List.mem_singleton.mp hx
    exact names

theorem Shows.comes {l : List Sighting} (h : Shows f filter group trial c l r c') (hx : x ∈ l)
    (on : filter.allows group trial.spec.name = true) : Comes f trial c x c' := by
  cases h with
  | shutOut off =>
    rw [on] at off
    cases off
  | refused => cases hx
  | ran on names comes =>
    obtain rfl := List.mem_singleton.mp hx
    exact comes

/-- What is sighted in the turns of probes is about one of them. -/
theorem names_turns (ht : ∀ t ∈ trials, t.Within calls) {p p' : RunSummary × C}
    (hfollows : j.Follows f) (h : Each (execute filter group) trials p j r p')
    (hx : x ∈ j.sightings readings) :
    x.record.group = group ∧ ∃ t ∈ trials, x.record.probe = t.spec.name := by
  induction h generalizing readings with
  | done => cases hx
  | stopped first =>
    obtain ⟨hgroup, hprobe⟩ :=
      ((plays_execute first).shows readings (ht _ List.mem_cons_self) hfollows).names hx
    exact ⟨hgroup, _, List.mem_cons_self, hprobe⟩
  | next first rest ih =>
    rw [follows_append] at hfollows
    rw [sightings_append, List.mem_append] at hx
    rcases hx with hx | hx
    · obtain ⟨hgroup, hprobe⟩ :=
        ((plays_execute first).shows readings (ht _ List.mem_cons_self) hfollows.1).names hx
      exact ⟨hgroup, _, List.mem_cons_self, hprobe⟩
    · obtain ⟨hgroup, t, hmem, hprobe⟩ :=
        ih (fun t hmem => ht t (List.mem_cons_of_mem _ hmem)) hfollows.2 hx
      exact ⟨hgroup, t, List.mem_cons_of_mem _ hmem, hprobe⟩

/-- What is sighted of an enabled probe is what the probe comes to from a context that the turns in
front of it can reach. -/
theorem reached_turns {front later : List (Trial C)}
    (ht : ∀ t ∈ front ++ trial :: later, t.Within calls)
    (hnames : ((front ++ trial :: later).map (·.spec.name)).Nodup)
    (on : filter.allows group trial.spec.name = true) {p p' : RunSummary × C}
    (hfollows : j.Follows f) (h : Each (execute filter group) (front ++ trial :: later) p j r p')
    (hx : x ∈ j.sightings readings) (hprobe : x.record.probe = trial.spec.name) :
    ∃ c c', Reaches f filter group front p.2 c ∧ Comes f trial c x c' := by
  induction front generalizing p j readings with
  | nil =>
    rw [List.nil_append] at h hnames
    cases h with
    | stopped first =>
      have hshows := (plays_execute first).shows readings (ht _ (by simp)) hfollows
      exact ⟨p.2, p'.2, .here p.2, hshows.comes hx on⟩
    | next first rest =>
      rw [follows_append] at hfollows
      rw [sightings_append, List.mem_append] at hx
      rcases hx with hx | hx
      · have hshows := (plays_execute first).shows readings (ht _ (by simp)) hfollows.1
        exact ⟨p.2, _, .here p.2, hshows.comes hx on⟩
      · -- no probe behind it has the name
        obtain ⟨-, t, hmem, hname⟩ :=
          names_turns (fun t hmem => ht t (by simp [hmem])) hfollows.2 rest hx
        rw [List.map_cons, List.nodup_cons] at hnames
        exact absurd (hprobe ▸ hname ▸ List.mem_map_of_mem hmem) hnames.1
  | cons t front ih =>
    rw [List.cons_append] at h
    rw [List.cons_append, List.map_cons, List.nodup_cons] at hnames
    -- the turn of a probe in front of it is about that probe
    have hother : ∀ {l r c'}, Shows f filter group t p.2 l r c' → x ∉ l := by
      intro l r c' hshows hx
      rw [← (hshows.names hx).2, hprobe] at hnames
      exact hnames.1 (by simp)
    cases h with
    | stopped first =>
      exact absurd hx (hother ((plays_execute first).shows readings (ht _ (by simp)) hfollows))
    | next first rest =>
      rw [follows_append] at hfollows
      rw [sightings_append, List.mem_append] at hx
      have hshows := (plays_execute first).shows readings (ht _ (by simp)) hfollows.1
      obtain ⟨c, c', hreach, hcomes⟩ := ih (fun t hmem => ht t (by simp_all)) hnames.2 hfollows.2
        rest (hx.resolve_left (hother hshows))
      exact ⟨c, c', .next hshows.moves hreach, hcomes⟩

/-! ## Runs -/

variable {g : Group}

/-- What is sighted in the part of a group is sighted in the turns of its probes. -/
theorem GroupPart.sighted (hg : g.Within calls) (hfollows : j.Follows f)
    (h : GroupPart filter g s j r s') (hx : x ∈ j.sightings readings) :
    ∃ probes readings' left, probes.Follows f ∧
      Turns filter g.name g.trials s g.start probes r s' left ∧ x ∈ probes.sightings readings' := by
  obtain ⟨e, rfl, -⟩ | ⟨probes, teardown, left, _, rfl, turns, -, hteardown⟩ := h.anatomy hg
  · cases hx
  · rw [follows_append, follows_append] at hfollows
    rw [sightings_append, sightings_append, sightings_of_records_eq_nil hteardown,
      sightings_of_records_eq_nil rfl, List.nil_append, List.append_nil] at hx
    exact ⟨probes, _, left, hfollows.2.1, turns, hx⟩

/-- What is sighted in the parts of groups is sighted in the turns of the group that it names. -/
theorem sighted_groups {groups : List Group} (hgroups : ∀ g ∈ groups, ∃ calls, g.Within calls)
    (hfollows : j.Follows f) (h : Each (runGroup filter) groups s j r s')
    (hx : x ∈ j.sightings readings) :
    ∃ g ∈ groups, g.name = x.record.group ∧ ∃ s probes r s' left readings', probes.Follows f ∧
      Turns filter g.name g.trials s g.start probes r s' left ∧ x ∈ probes.sightings readings' := by
  induction h generalizing readings with
  | done => cases hx
  | @stopped g groups s j e s' first =>
    obtain ⟨calls, hg⟩ := hgroups _ List.mem_cons_self
    obtain ⟨probes, _, _, hprobes, turns, hx⟩ := (plays_runGroup first).sighted hg hfollows hx
    exact ⟨g, List.mem_cons_self, (names_turns hg.trials hprobes turns hx).1.symm, _, probes, _, _,
      _, _, hprobes, turns, hx⟩
  | @next g groups s j₁ s₁ j₂ r s' first rest ih =>
    obtain ⟨calls, hg⟩ := hgroups _ List.mem_cons_self
    rw [follows_append] at hfollows
    rw [sightings_append, List.mem_append] at hx
    rcases hx with hx | hx
    · obtain ⟨probes, _, _, hprobes, turns, hx⟩ := (plays_runGroup first).sighted hg hfollows.1 hx
      exact ⟨g, List.mem_cons_self, (names_turns hg.trials hprobes turns hx).1.symm, _, probes, _,
        _, _, _, hprobes, turns, hx⟩
    · obtain ⟨g, hmem, h⟩ :=
        ih (fun g hmem => hgroups g (List.mem_cons_of_mem _ hmem)) hfollows.2 hx
      exact ⟨g, List.mem_cons_of_mem _ hmem, h⟩

/-- What a run records of an enabled probe is what the probe comes to from a context that the turns
in front of it in its group can reach. -/
theorem RunCourse.reached {b : Battery} {runId : String} {startedAt : Int64}
    {result : Except HarnessError RunSummary}
    (h : RunCourse b runId startedAt j result) (hfollows : j.Follows f)
    (hgroups : ∀ g ∈ b.groups, ∃ calls, g.Within calls) (hnames : (b.groups.map (·.name)).Nodup)
    (hg : g ∈ b.groups)
    {front later : List (Trial g.Context)} {trial : Trial g.Context}
    (htrials : g.trials = front ++ trial :: later)
    (htrialNames : (g.trials.map (·.spec.name)).Nodup)
    (on : b.filter.allows g.name trial.spec.name = true) (hx : x ∈ j.sightings readings)
    (hgroup : x.record.group = g.name) (hprobe : x.record.probe = trial.spec.name) :
    ∃ c c', Reaches f b.filter g.name front g.start c ∧ Comes f trial c x c' := by
  obtain ⟨s, part, r, s', readings', hpart, heach, hmem⟩ : ∃ s part r s' readings',
      part.Follows f ∧ Each (runGroup b.filter) b.groups s part r s' ∧
        x ∈ part.sightings readings' := by
    cases h with
    | refused e => cases hx
    | stopped groups =>
      rw [follows_append] at hfollows
      rw [sightings_append, sightings_of_records_eq_nil rfl, List.nil_append] at hx
      exact ⟨_, _, _, _, _, hfollows.2, groups, hx⟩
    | ended groups answer =>
      rw [follows_append, follows_append] at hfollows
      rw [sightings_append, sightings_append, sightings_of_records_eq_nil rfl, List.nil_append,
        sightings_of_records_eq_nil (j := closing _ _) rfl, List.append_nil] at hx
      exact ⟨_, _, _, _, _, hfollows.2.1, groups, hx⟩
  obtain ⟨g', hg', hname, s, probes, r, s', left, readings'', hprobes, turns, hmem⟩ :=
    sighted_groups hgroups hpart heach hmem
  -- groups of one name are one group
  obtain rfl : g' = g := List.inj_on_of_nodup_map hnames hg' hg (hname.trans hgroup)
  obtain ⟨calls, hwithin⟩ := hgroups g' hg
  have ht := hwithin.trials
  rw [htrials] at ht turns htrialNames
  exact reached_turns ht htrialNames on hprobes turns hmem hprobe

end Battery

end KernelProbe
