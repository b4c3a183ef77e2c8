import KernelProbe.Proofs.Session.Completeness
import KernelProbe.Proofs.Session.Conformity

/-!
# Verdicts are exact

Over a run of the standard battery, the record of a probe that ran is a pass exactly if the
criterion of the probe holds of what the probes heard up to the record (`standard_verdicts`). The
proof goes through the turns of a group and through the groups of a run: a turn adds what its probe
heard, and leaves what the other probes heard (`Turn.judged`), so that each probe meets what the
probes before it heard.
-/

namespace KernelProbe

open Function

/-- What each probe heard from the kernel in a journal. -/
def Journal.heard (j : Journal) : Heard := fun i => leadingTo i.group i.name [] j

/-- If the entry is a record, it is about a probe of the roster. If the filter allows the probe, the
record says that it passed exactly if the criterion of the probe holds. -/
def Judged (c : HarnessConfig) (past : Journal) (e : Entry) : Prop :=
  ∀ record answer, e = ⟨.report (.record record), answer⟩ → ∃ i ∈ (roster c.mapLengths).flatten,
    record.group = i.group ∧ record.probe = i.name ∧ (c.filter.allows i.group i.name = true →
      (record.outcome = .pass ↔ i.Passes c (Journal.heard (past ++ [e]))))

namespace Journal

variable {c : HarnessConfig} {past j front : Journal} {i : ProbeId}

theorem judged_of_records_eq_nil (h : j.records = []) : Every (Judged c) past j :=
  every_of_records_eq_nil (fun _ _ hno record answer heq => (hno record answer heq).elim) h

theorem heard_append_of_records_eq_nil (h : j.records = []) : heard (past ++ j) = heard past := by
  funext k
  rw [heard, leadingTo_append, leadingTo_of_records_eq_nil h, List.append_nil]
  rfl

/-- A record adds what its probe heard, and nothing for the other probes. -/
theorem heard_record {record : ProbeRecord} (answer : Except HarnessError Unit)
    (hpending : pending [] past = []) (hfront : front.Undivided) (hgroup : record.group = i.group)
    (hprobe : record.probe = i.name) (hfresh : past.heard i = []) :
    heard (past ++ (front ++ [⟨.report (.record record), answer⟩]))
      = update past.heard i front.kernel := by
  funext k
  have hadded : heard (past ++ (front ++ [⟨.report (.record record), answer⟩])) k
      = past.heard k ++
        if record.group = k.group ∧ record.probe = k.name then front.kernel else [] := by
    rw [heard, leadingTo_append, hpending, leadingTo_record hfront]
    rfl
  rw [hadded]
  by_cases hk : k = i
  · rw [hk, if_pos ⟨hgroup, hprobe⟩, hfresh, update_self]
    rfl
  · rw [if_neg fun hnames => hk (ProbeId.name_inj (hnames.2.symm.trans hprobe)), List.append_nil,
      update_of_ne hk]

end Journal

namespace Battery

open Journal Staged

variable {C : Type} {c : HarnessConfig} {calls : List Syscall} {group : String} {i : ProbeId}
  {later ids : List ProbeId} {Inv : Heard → C → Prop} {trial : Trial C} {trials : List (Trial C)}
  {s s' : RunSummary} {context context' : C} {past j : Journal} {r : Except HarnessError Unit}

/-! ## Turns -/

/-- The turn of a probe records it as its criterion says, and leaves what the other probes heard. -/
theorem Turn.judged (ht : trial.Within calls) (hconf : Conforms c Inv i later trial)
    (hroster : i ∈ (roster c.mapLengths).flatten) (hgroup : i.group = group)
    (h : Turn c.filter group trial s context j r s' context') (hpending : pending [] past = [])
    (hinv : Inv past.heard context) (hfresh : ∀ k ∈ i :: later, past.heard k = []) :
    Every (Judged c) past j ∧ (∀ k, k ≠ i → heard (past ++ j) k = past.heard k) ∧
      (r = .ok () → pending [] (past ++ j) = [] ∧ Inv (heard (past ++ j)) context') := by
  have hnone : past.heard i = [] := hfresh i List.mem_cons_self
  obtain ⟨-, ⟨e, rfl⟩, -, hundivided, -⟩ | ⟨front, record, rfl, -, hfront, hcase⟩ := h.recorded ht
  · have hrecords := records_of_undivided hundivided
    refine ⟨judged_of_records_eq_nil hrecords, fun k _ => ?_, by simp⟩
    rw [heard_append_of_records_eq_nil hrecords]
  have hnames : record.group = i.group ∧ record.probe = i.name := by
    obtain ⟨-, -, rfl, -⟩ | ⟨-, _, _, _, _, -, rfl, -⟩ := hcase <;> exact ⟨hgroup.symm, hconf.name⟩
  have hheard := heard_record r hpending hfront hnames.1 hnames.2 hnone
  have hpending' : pending [] (past ++ (front ++ [⟨.report (.record record), r⟩])) = [] := by
    rw [← List.append_assoc]
    exact pending_record ..
  rw [hheard, hpending']
  refine ⟨?_, fun k hk => update_of_ne hk .., ?_⟩
  · refine every_append (judged_of_records_eq_nil (records_of_undivided hfront))
      (every_singleton ?_)
    rintro record' answer heq
    cases heq
    refine ⟨i, hroster, hnames.1, hnames.2, fun hallows => ?_⟩
    rw [List.append_assoc, hheard]
    -- a probe that was shut out is not one that the filter allows
    obtain ⟨off, -⟩ | ⟨-, own, outcome, evidence, elapsed, plays, rfl, hkernel⟩ := hcase
    · rw [← hgroup, hconf.name, hallows] at off
      cases off
    · rw [hkernel]
      exact (hconf.judged hinv hfresh plays).2
  · refine fun _ => ⟨rfl, ?_⟩
    obtain ⟨-, rfl, -, rfl⟩ | ⟨-, own, outcome, evidence, elapsed, plays, -, hkernel⟩ := hcase
    · rw [kernel_nil, ← hnone, update_eq_self]
      exact hinv
    · rw [hkernel]
      exact (hconf.judged hinv hfresh plays).1

/-- The turns of a group's probes record them as their criteria say, and leave what the probes of
other groups heard. -/
theorem turns_judged {p p' : RunSummary × C} (ht : ∀ t ∈ trials, t.Within calls)
    (hconf : ConformAll c Inv ids trials) (hroster : ids ⊆ (roster c.mapLengths).flatten)
    (hnodup : ids.Nodup) (hgroup : ∀ i ∈ ids, i.group = group)
    (h : Each (execute c.filter group) trials p j r p') (hpending : pending [] past = [])
    (hinv : Inv past.heard p.2) (hfresh : ∀ k ∈ ids, past.heard k = []) :
    Every (Judged c) past j ∧ ∀ k, k.group ≠ group → heard (past ++ j) k = past.heard k := by
  induction h generalizing past ids with
  | done => exact ⟨judged_of_records_eq_nil rfl, fun k _ => by rw [List.append_nil]⟩
  | stopped first =>
    obtain _ | @⟨i, _, _, _, hfirst, hrest⟩ := hconf
    obtain ⟨hjudged, hothers, -⟩ := (plays_execute first).judged (ht _ List.mem_cons_self) hfirst
      (hroster List.mem_cons_self) (hgroup i List.mem_cons_self) hpending hinv hfresh
    refine ⟨hjudged, fun k hk => hothers k ?_⟩
    rintro rfl
    exact hk (hgroup k List.mem_cons_self)
  | next first rest ih =>
    obtain _ | @⟨i, later, _, _, hfirst, hrest⟩ := hconf
    obtain ⟨hjudged, hothers, hnext⟩ := (plays_execute first).judged
      (ht _ List.mem_cons_self) hfirst
      (hroster List.mem_cons_self) (hgroup i List.mem_cons_self) hpending hinv hfresh
    obtain ⟨hpending', hinv'⟩ := hnext rfl
    obtain ⟨hi, hlater⟩ := List.nodup_cons.mp hnodup
    -- the probes behind the first heard nothing in its turn
    obtain ⟨hjudged', hothers'⟩ := ih (fun t hmem => ht t (List.mem_cons_of_mem _ hmem)) hrest
      (fun k hk => hroster (List.mem_cons_of_mem i hk)) hlater
      (fun k hk => hgroup k (List.mem_cons_of_mem i hk)) hpending' hinv' fun k hk => by
        rw [hothers k fun heq => hi (heq ▸ hk)]
        exact hfresh k (List.mem_cons_of_mem i hk)
    refine ⟨every_append hjudged hjudged', fun k hk => ?_⟩
    rw [← List.append_assoc, hothers' k hk]
    refine hothers k ?_
    rintro rfl
    exact hk (hgroup k List.mem_cons_self)

/-! ## Groups -/

variable {g : Group}

/-- The part of a group records its probes as their criteria say, and leaves what the probes of
other groups heard. -/
theorem GroupPart.judged (hg : g.Within calls) (hconf : GroupConforms c g ids)
    (hroster : ids ⊆ (roster c.mapLengths).flatten) (hnodup : ids.Nodup)
    (hgroup : ∀ i ∈ ids, i.group = g.name) (h : GroupPart c.filter g s j r s')
    (hfresh : ∀ k : ProbeId, k.group = g.name → past.heard k = []) :
    Every (Judged c) past j ∧ ∀ k, k.group ≠ g.name → heard (past ++ j) k = past.heard k := by
  obtain ⟨e, rfl, -⟩ | ⟨probes, teardown, left, _, rfl, turns, -, hteardown⟩ := h.anatomy hg
  · exact ⟨judged_of_records_eq_nil rfl, fun k _ => by rw [heard_append_of_records_eq_nil rfl]⟩
  obtain ⟨Inv, hstart, hall⟩ := hconf
  have hheard : heard (past ++ groupPreface g (.ok ())) = past.heard :=
    heard_append_of_records_eq_nil rfl
  -- what came before the group does not lead to a record of its probes
  have hpending : pending [] (past ++ groupPreface g (.ok ())) = [] := by
    rw [pending_append]
    rfl
  obtain ⟨hjudged, hothers⟩ := turns_judged hg.trials hall hroster hnodup hgroup turns hpending
    (hheard ▸ hstart _ hfresh) fun k hk => by rw [hheard, hfresh k (hgroup k hk)]
  refine ⟨?_, fun k hk => ?_⟩
  · exact every_append (judged_of_records_eq_nil rfl)
      (every_append hjudged (judged_of_records_eq_nil hteardown))
  · rw [← hheard, ← hothers k hk, ← List.append_assoc, ← List.append_assoc,
      heard_append_of_records_eq_nil hteardown]

/-- The parts of groups of different names record their probes as their criteria say. -/
theorem groups_judged {groups : List Group} {lists : List (List ProbeId)}
    (hgroups : ∀ g ∈ groups, ∃ calls, g.Within calls)
    (hconf : List.Forall₂ (GroupConforms c) groups lists)
    (hlists : ∀ ids ∈ lists, ids ⊆ (roster c.mapLengths).flatten ∧ ids.Nodup)
    (hgroup : List.Forall₂ (fun g ids => ∀ i ∈ ids, i.group = g.name) groups lists)
    (hnames : (groups.map (·.name)).Nodup) (h : Each (runGroup c.filter) groups s j r s')
    (hfresh : ∀ k : ProbeId, k.group ∈ groups.map (·.name) → past.heard k = []) :
    Every (Judged c) past j := by
  induction h generalizing past lists with
  | done => exact judged_of_records_eq_nil rfl
  | stopped first =>
    obtain ⟨calls, hg⟩ := hgroups _ List.mem_cons_self
    obtain _ | ⟨hfirst, -⟩ := hconf
    obtain _ | ⟨hname, -⟩ := hgroup
    obtain ⟨hroster, hnodup⟩ := hlists _ List.mem_cons_self
    exact ((plays_runGroup first).judged hg hfirst hroster hnodup hname
      fun k hk => hfresh k (by simp [hk])).1
  | next first rest ih =>
    obtain ⟨calls, hg⟩ := hgroups _ List.mem_cons_self
    obtain _ | ⟨hfirst, hothers⟩ := hconf
    obtain _ | ⟨hname, hnames'⟩ := hgroup
    obtain ⟨hroster, hnodup⟩ := hlists _ List.mem_cons_self
    obtain ⟨hjudged, hkept⟩ := (plays_runGroup first).judged hg hfirst hroster hnodup hname
      fun k hk => hfresh k (by simp [hk])
    obtain ⟨hapart, hrest⟩ := List.nodup_cons.mp hnames
    refine every_append hjudged (ih (fun g hmem => hgroups g (List.mem_cons_of_mem _ hmem)) hothers
      (fun ids hmem => hlists ids (List.mem_cons_of_mem _ hmem)) hnames' hrest fun k hk => ?_)
    -- the groups to come have other names, so that their probes heard nothing in this one
    have hother : k.group ≠ _ := fun heq => hapart (heq ▸ hk :)
    rw [hkept k hother]
    exact hfresh k (List.mem_cons_of_mem _ hk)

/-! ## Runs -/

variable {missing existing : ExecRequest} {runId : String} {startedAt : Int64}
  {result : Except HarnessError RunSummary}

/-- A run of the standard battery records the probes as their criteria say. -/
theorem RunCourse.judged (hc : c.Sound missing existing)
    (h : RunCourse (ofRequests c missing existing) runId startedAt j result) :
    Every (Judged c) [] j := by
  have hlists : ∀ ids ∈ roster c.mapLengths, ids ⊆ (roster c.mapLengths).flatten ∧ ids.Nodup := by
    refine fun ids hids => ⟨fun i hi => List.mem_flatten_of_mem hids hi, ?_⟩
    exact (List.nodup_flatten.mp (nodup_roster hc.distinct)).1 ids hids
  have hgroups : ∀ {j : Journal} {e s s'},
      Each (runGroup c.filter) (ofRequests c missing existing).groups s j e s' →
        Every (Judged c) ((ofRequests c missing existing).preface runId startedAt (.ok ())) j := by
    intro j e s s' h
    refine groups_judged (within_ofRequests hc) (conforms_ofRequests hc) hlists
      (groups_ofRequests.imp fun _ _ h => h.2) nodup_names h ?_
    exact fun k _ => leadingTo_of_records_eq_nil rfl
  cases h with
  | refused e => exact judged_of_records_eq_nil rfl
  | stopped groups => exact every_append (judged_of_records_eq_nil rfl) (hgroups groups)
  | ended groups answer =>
    exact every_append (judged_of_records_eq_nil rfl) (every_append (hgroups groups)
      (judged_of_records_eq_nil rfl))

/-- On every kernel and with every reporter, a record that the standard battery reports is about a
probe of its roster, and if the filter allows the probe, it passed exactly if its criterion holds of
what was heard up to the record. If the reporter takes every event, there is a record about every
probe. -/
theorem standard_verdicts {κ ρ : Type} (kernel : Kernel κ) (reporter : Reporter ρ) (k : κ) (r : ρ)
    {c : HarnessConfig} {b : Battery} (hb : standard c = .ok b) (runId : String)
    (startedAt : Int64) :
    (∀ past record answer future, ((b.run runId startedAt).run kernel reporter k r).journal
        = past ++ ⟨.report (.record record), answer⟩ :: future →
      ∃ i ∈ (roster c.mapLengths).flatten, record.group = i.group ∧ record.probe = i.name ∧
        (c.filter.allows i.group i.name = true → (record.outcome = .pass ↔
          i.Passes c (Journal.heard (past ++ [⟨.report (.record record), answer⟩]))))) ∧
      ((∀ event r, (reporter.receive event r).1 = .ok ()) → ∀ i ∈ (roster c.mapLengths).flatten,
        ∃ record ∈ ((b.run runId startedAt).run kernel reporter k r).journal.records,
          record.group = i.group ∧ record.probe = i.name) := by
  obtain ⟨missing, existing, hc, rfl⟩ := standard_eq_ok hb
  have hcourse := plays_run (Program.run_plays kernel reporter
    ((ofRequests c missing existing).run runId startedAt) k r)
  constructor
  · intro past record answer future hsplit
    exact hcourse.judged hc past _ future hsplit record answer rfl
  · intro takes i hi
    obtain ⟨summary, -, -, -, -, hmatch⟩ := hcourse.completed (within_ofRequests hc)
      (Program.run_accepted kernel reporter takes _ k r)
    have hplan : (i.group, i.name) ∈ (ofRequests c missing existing).plan.map
        fun entry => (entry.group, entry.spec.name) := by
      rw [map_name_plan]
      exact List.mem_map_of_mem hi
    obtain ⟨entry, hentry, heq⟩ := List.mem_map.mp hplan
    have hnames := List.mem_map_of_mem hentry (f := fun entry : PlanEntry =>
      (entry.group, entry.spec.name, entry.spec.syscalls))
    rw [← names_of_matches hmatch] at hnames
    obtain ⟨record, hrecord, heq'⟩ := List.mem_map.mp hnames
    simp only [Prod.mk.injEq] at heq heq'
    exact ⟨record, hrecord, heq'.1.trans heq.1, heq'.2.1.trans heq.2⟩

/-- In a run of the default battery on the modelled machine, there is a record about every probe. -/
theorem standard_verdicts_default : ∃ b, standard {} = .ok b ∧
    ∀ i ∈ (roster ({} : HarnessConfig).mapLengths).flatten,
      ∃ record ∈ ((b.run "run" 0).run Host.Machine.kernel recording
          Host.Machine.start []).journal.records,
        record.group = i.group ∧ record.probe = i.name :=
  ⟨_, rfl, (standard_verdicts Host.Machine.kernel recording Host.Machine.start [] rfl "run" 0).2
    fun _ _ => rfl⟩

end Battery

end KernelProbe
