import KernelProbe.Proofs.Session.Stream

/-!
# Refused events

A reporter that refuses one event stops the run there. `Program.run_refusing` compares two runs of a
program, whose reporters differ in one answer: up to that answer they go through the same journal.
What comes after it depends on where the run stood. `Aftermath` says that nothing does unless a
group was under way, and then its teardown; `RunCourse.refusal` says that this is so along every
course of a run.
-/

namespace KernelProbe

/-- Whether the event belongs to the turn of a probe. -/
def ReportEvent.ofTurn : ReportEvent → Bool
  | .checkpoint _ | .beginProbe .. | .record _ => true
  | .beginRun _ | .beginGroup _ | .finish _ => false

namespace Journal

/-- The report events that were taken. -/
def taken (j : Journal) : List ReportEvent :=
  j.filterMap fun
    | ⟨.report event, .ok ()⟩ => some event
    | _ => none

variable {j j₁ j₂ : Journal}

theorem accepted_cons {e : Entry} : Accepted (e :: j) ↔ Accepted [e] ∧ j.Accepted := by
  rw [← accepted_append, List.singleton_append]

theorem taken_append : taken (j₁ ++ j₂) = j₁.taken ++ j₂.taken := List.filterMap_append

theorem accepted_of_reports_eq_nil (h : j.reports = []) : j.Accepted := by
  intro event answer hmem
  have hevent : event ∈ j.reports := List.mem_filterMap.mpr ⟨_, hmem, rfl⟩
  rw [h] at hevent
  cases hevent

theorem accepted_report (event : ReportEvent) : Accepted [⟨.report event, .ok ()⟩] := by
  intro event' answer hmem
  cases List.mem_singleton.mp hmem
  rfl

/-- If all reported events were taken, these are the taken ones. -/
theorem taken_of_accepted (h : j.Accepted) : j.taken = j.reports := by
  induction j with
  | nil => rfl
  | cons e j ih =>
    obtain ⟨he, hj⟩ := accepted_cons.mp h
    obtain ⟨q, answer⟩ := e
    rw [reports_cons, ← ih hj]
    cases q with
    | report event =>
      obtain rfl := he event answer List.mem_cons_self
      rfl
    | _ => rfl

theorem taken_of_reports_eq_nil (h : j.reports = []) : j.taken = [] := by
  rw [taken_of_accepted (accepted_of_reports_eq_nil h), h]

/-- A journal has at most one first refused event. -/
theorem first_refused_unique {before before' after after' : Journal} {event event' : ReportEvent}
    {e e' : HarnessError} (hbefore : before.Accepted) (hbefore' : before'.Accepted)
    (h : before ++ ⟨.report event, .error e⟩ :: after
      = before' ++ ⟨.report event', .error e'⟩ :: after') :
    before = before' ∧ event = event' ∧ e = e' ∧ after = after' := by
  induction before generalizing before' with
  | nil =>
    cases before' with
    | nil =>
      cases h
      exact ⟨rfl, rfl, rfl, rfl⟩
    | cons x before' =>
      -- the refused event would stand among those that were taken
      obtain ⟨rfl, -⟩ := List.cons.inj h
      cases hbefore' event (.error e) List.mem_cons_self
  | cons x before ih =>
    cases before' with
    | nil =>
      obtain ⟨rfl, -⟩ := List.cons.inj h
      cases hbefore event' (.error e') List.mem_cons_self
    | cons x' before' =>
      obtain ⟨rfl, hrest⟩ := List.cons.inj h
      obtain ⟨rfl, hsame⟩ := ih (accepted_cons.mp hbefore).2
        (accepted_cons.mp hbefore').2 hrest
      exact ⟨rfl, hsame⟩

/-- Two journals that go together until the one has the `n`-th event taken and the other has it
refused. -/
inductive Forks (e : HarnessError) : Nat → Journal → Journal → Prop
  /-- There is no such event. -/
  | never (n : Nat) : Forks e n [] []
  /-- This is the event. -/
  | here (event : ReportEvent) (full cut : Journal) :
      Forks e 0 (⟨.report event, .ok ()⟩ :: full) (⟨.report event, .error e⟩ :: cut)
  /-- The event comes later, behind another that both have taken. -/
  | event {n : Nat} {full cut : Journal} (event : ReportEvent) (later : Forks e n full cut) :
      Forks e (n + 1) (⟨.report event, .ok ()⟩ :: full) (⟨.report event, .ok ()⟩ :: cut)
  /-- The event comes later, behind an entry that is no event. -/
  | entry {n : Nat} {full cut : Journal} {x : Entry} (quiet : x.report? = none)
      (later : Forks e n full cut) : Forks e n (x :: full) (x :: cut)

/-- Journals that fork at an event have the same entries before it. -/
theorem Forks.split {e : HarnessError} {n : Nat} {full cut : Journal} (h : Forks e n full cut)
    (hn : n < full.reports.length) :
    ∃ (before after tail : Journal) (event : ReportEvent),
      full = before ++ ⟨.report event, .ok ()⟩ :: after ∧
      cut = before ++ ⟨.report event, .error e⟩ :: tail ∧ before.reports.length = n := by
  induction h with
  | never n => cases hn
  | here event full cut => exact ⟨[], full, cut, event, rfl, rfl, rfl⟩
  | event event later ih =>
    obtain ⟨before, after, tail, event', rfl, rfl, hlength⟩ := ih (Nat.lt_of_succ_lt_succ hn)
    exact ⟨⟨.report event, .ok ()⟩ :: before, after, tail, event', rfl, rfl,
      congrArg (· + 1) hlength⟩
  | @entry n full cut x quiet later ih =>
    have hreports (j : Journal) : reports (x :: j) = j.reports := by
      rw [reports_cons, quiet]
      rfl
    rw [hreports] at hn
    obtain ⟨before, after, tail, event', rfl, rfl, hlength⟩ := ih hn
    exact ⟨x :: before, after, tail, event', rfl, rfl, by rw [hreports, hlength]⟩

end Journal

/-! ## Two runs -/

/-- A program goes through the same journal with a reporter that takes every event as with one that
refuses the `n`-th, up to that event. -/
theorem Program.run_refusing {α κ ρ : Type} (kernel : Kernel κ) (reporter : Reporter ρ)
    (takes : ∀ event r, (reporter.receive event r).1 = .ok ()) (e : HarnessError) (p : Program α)
    (k : κ) (r : ρ) {seen left n : Nat} (hn : seen + left = n) :
    Journal.Forks e left (p.run kernel reporter k r).journal
      (p.run kernel (reporter.refusing n e) k (seen, r)).journal := by
  induction p generalizing k r seen left with
  | pure a => exact .never left
  | ask q next ih =>
    cases q with
    | report event =>
      have hfull : answer kernel reporter (.report event) k r
          = (.ok (), k, (reporter.receive event r).2) :=
        congrArg (·, k, (reporter.receive event r).2) (takes event r)
      cases left with
      | zero =>
        have hcut : answer kernel (reporter.refusing n e) (.report event) k (seen, r)
            = (.error e, k, seen + 1, r) := by
          simp [answer, Reporter.refusing, show seen = n from hn]
        simp only [Program.run, hfull, hcut]
        exact .here event ..
      | succ left =>
        have hcut : answer kernel (reporter.refusing n e) (.report event) k (seen, r)
            = (.ok (), k, seen + 1, (reporter.receive event r).2) := by
          simp [answer, Reporter.refusing, takes, show seen ≠ n by omega]
        simp only [Program.run, hfull, hcut]
        exact .event event (ih _ _ _ (by omega))
    | _ => exact .entry rfl (ih _ _ _ hn)

namespace Battery

open Journal Staged

/-! ## Turns -/

/-- All events belong to turns of probes, and were taken. -/
structure Orderly (j : Journal) : Prop where
  accepted : j.Accepted
  ofTurn : ∀ event ∈ j.reports, event.ofTurn = true

/-- Turns go on as long as their events are taken, and end with the first that is refused. -/
inductive Heeds : Journal → Except HarnessError Unit → Prop
  /-- Every event was taken. -/
  | taken {j : Journal} (orderly : Orderly j) : Heeds j (.ok ())
  /-- The last event was refused. -/
  | refused {before : Journal} (orderly : Orderly before) {event : ReportEvent}
      (ofTurn : event.ofTurn = true) (e : HarnessError) :
      Heeds (before ++ [⟨.report event, .error e⟩]) (.error e)

variable {C : Type} {calls : List Syscall} {filter : ProbeFilter} {group : String} {trial : Trial C}
  {s s' : RunSummary} {c c' : C} {j j₁ j₂ : Journal} {r : Except HarnessError Unit}

theorem Orderly.of_reports_eq_nil (h : j.reports = []) : Orderly j :=
  ⟨accepted_of_reports_eq_nil h, by simp [h]⟩

theorem Orderly.append (h₁ : Orderly j₁) (h₂ : Orderly j₂) : Orderly (j₁ ++ j₂) where
  accepted := accepted_append.mpr ⟨h₁.accepted, h₂.accepted⟩
  ofTurn := by
    rw [reports_append, List.forall_mem_append]
    exact ⟨h₁.ofTurn, h₂.ofTurn⟩

theorem Orderly.report {event : ReportEvent} (h : event.ofTurn = true) :
    Orderly [⟨.report event, .ok ()⟩] where
  accepted := accepted_report event
  ofTurn := List.forall_mem_singleton.mpr h

theorem Heeds.answer (h : Orderly j) {event : ReportEvent} (hevent : event.ofTurn = true) :
    Heeds (j ++ [⟨.report event, r⟩]) r := by
  rcases r with e | ⟨⟩
  · exact .refused h hevent e
  · exact .taken (h.append (.report hevent))

theorem Heeds.append_left (h₁ : Orderly j₁) (h₂ : Heeds j₂ r) : Heeds (j₁ ++ j₂) r := by
  cases h₂ with
  | taken orderly => exact .taken (h₁.append orderly)
  | refused orderly ofTurn e =>
    rw [← List.append_assoc]
    exact .refused (h₁.append orderly) ofTurn e

theorem orderly_checkpointed (spec : ProbeSpec) (s : RunSummary) :
    Orderly (checkpointed spec s) := by
  unfold checkpointed
  split
  · have hnote : Orderly [checkpointNote spec] := .of_reports_eq_nil rfl
    exact hnote.append (.report rfl)
  · exact .of_reports_eq_nil rfl

theorem orderly_attended {spec : ProbeSpec} {started ended : Instant} {own : Journal}
    {outcome : Outcome} (hown : own.reports = []) :
    Orderly (attended group spec s started ended own outcome) := by
  have hbegin : Orderly [⟨.report (.beginProbe group spec), .ok ()⟩] := .report rfl
  have hclock : Orderly [⟨.clock, started⟩] := .of_reports_eq_nil rfl
  have hverdict := Orderly.of_reports_eq_nil (silent_verdict ended spec.name outcome).2
  exact ((((orderly_checkpointed spec s).append hbegin).append hclock).append
    (.of_reports_eq_nil hown)).append hverdict

/-- A turn ends with the first event that is refused. -/
theorem Turn.heeds (ht : trial.Within calls) (h : Turn filter group trial s c j r s' c') :
    Heeds j r := by
  cases h with
  | shutOut off answer =>
    have hnone : Orderly [] := .of_reports_eq_nil rfl
    exact Heeds.answer hnone rfl
  | checkpointRefused on may e =>
    have hnote : Orderly [checkpointNote trial.spec] := .of_reports_eq_nil rfl
    exact Heeds.answer hnote rfl
  | beginRefused on e => exact Heeds.answer (orderly_checkpointed trial.spec s) rfl
  | @ran on started own outcome evidence _ ended plays answer =>
    rw [ran_eq_attended]
    exact Heeds.answer (orderly_attended (ht.within plays).reports) rfl

/-- The turns of a group's probes end with the first event that is refused. -/
theorem turns_heed {trials : List (Trial C)} {p p' : RunSummary × C}
    (ht : ∀ t ∈ trials, t.Within calls) (h : Each (execute filter group) trials p j r p') :
    Heeds j r := by
  induction h with
  | done => exact .taken (.of_reports_eq_nil rfl)
  | stopped first => exact (plays_execute first).heeds (ht _ List.mem_cons_self)
  | next first rest ih =>
    have hfirst := (plays_execute first).heeds (ht _ List.mem_cons_self)
    have hrest := ih fun t hmem => ht t (List.mem_cons_of_mem _ hmem)
    cases hfirst with
    | taken orderly => exact hrest.append_left orderly

/-! ## Groups -/

/-- What comes after an event was refused, given what came before it. -/
inductive Aftermath (filter : ProbeFilter) (groups : List Group) (e : HarnessError) :
    Journal → ReportEvent → Journal → Prop
  /-- Nothing comes after the begin of the run. -/
  | beginRun {before : Journal} (info : RunInfo) :
      Aftermath filter groups e before (.beginRun info) []
  /-- Nothing comes after the begin of a group. -/
  | beginGroup {before : Journal} (name : String) :
      Aftermath filter groups e before (.beginGroup name) []
  /-- Nothing comes after the end of the run. -/
  | finish {before : Journal} (s : RunSummary) : Aftermath filter groups e before (.finish s) []
  /-- The group in progress is torn down: its own step for that is taken to its end, from the
  context that the probes so far have left, and a fault of the step is logged. -/
  | teardown {earlier probes own : Journal} {event : ReportEvent} {g : Group}
      {s s' : RunSummary} {left c : g.Context} {r : Except Halt Unit} (mem : g ∈ groups)
      (orderly : Orderly probes) (ofTurn : event.ofTurn = true)
      (turns : Turns filter g.name g.trials s g.start (probes ++ [⟨.report event, .error e⟩])
        (.error e) s' left)
      (tornDown : g.teardown.Plays left own r c) :
      Aftermath filter groups e (earlier ++ (groupPreface g (.ok ()) ++ probes)) event
        (own ++ teardownLog g.name r)

theorem Aftermath.eq_nil {groups : List Group} {e : HarnessError} {before tail : Journal}
    {event : ReportEvent} (h : Aftermath filter groups e before event tail)
    (hevent : event.ofTurn = false) : tail = [] := by
  cases h with
  | teardown mem orderly ofTurn turns tornDown => simp [hevent] at ofTurn
  | _ => rfl

theorem Aftermath.append_left {groups groups' : List Group} {e : HarnessError}
    {before tail : Journal} {event : ReportEvent} (hgroups : groups ⊆ groups') (earlier : Journal)
    (h : Aftermath filter groups e before event tail) :
    Aftermath filter groups' e (earlier ++ before) event tail := by
  cases h with
  | beginRun info => exact .beginRun info
  | beginGroup name => exact .beginGroup name
  | finish s => exact .finish s
  | teardown mem orderly ofTurn turns tornDown =>
    rw [← List.append_assoc]
    exact .teardown (hgroups mem) orderly ofTurn turns tornDown

/-- Groups go on as long as their events are taken, and after one that is refused there is only its
aftermath. -/
inductive Stops (filter : ProbeFilter) (groups : List Group) :
    Journal → Except HarnessError Unit → Prop
  /-- Every event was taken. -/
  | taken {j : Journal} (accepted : j.Accepted) : Stops filter groups j (.ok ())
  /-- An event was refused. -/
  | refused {before tail : Journal} {event : ReportEvent} {e : HarnessError}
      (accepted : before.Accepted) (quiet : tail.reports = [])
      (aftermath : Aftermath filter groups e before event tail) :
      Stops filter groups (before ++ ⟨.report event, .error e⟩ :: tail) (.error e)

theorem Stops.append_left {groups groups' : List Group} (hgroups : groups ⊆ groups')
    (h₁ : j₁.Accepted) (h₂ : Stops filter groups j₂ r) : Stops filter groups' (j₁ ++ j₂) r := by
  cases h₂ with
  | taken accepted => exact .taken (accepted_append.mpr ⟨h₁, accepted⟩)
  | refused accepted quiet aftermath =>
    rw [← List.append_assoc]
    exact .refused (accepted_append.mpr ⟨h₁, accepted⟩) quiet
      (aftermath.append_left hgroups j₁)

theorem accepted_groupPreface (g : Group) : (groupPreface g (.ok ())).Accepted :=
  accepted_cons.mpr ⟨accepted_of_reports_eq_nil rfl, accepted_report (.beginGroup g.name)⟩

/-- The part of a group stops at the first event that is refused, up to its teardown. -/
theorem GroupPart.stops {g : Group} (hg : g.Within calls) (h : GroupPart filter g s j r s') :
    Stops filter [g] j r := by
  obtain ⟨e, rfl, rfl, -⟩ | ⟨probes, teardown, left, c, rfl, turns, tornDown, -⟩ := h.anatomy hg
  · have hnote : Accepted [groupNote g] := accepted_of_reports_eq_nil rfl
    exact .refused hnote rfl (.beginGroup g.name)
  have hquiet := reports_tearDown hg tornDown
  obtain ⟨own, r, hstep, rfl⟩ := plays_tearDown_iff.mp tornDown
  cases turns_heed hg.trials turns with
  | taken orderly =>
    exact .taken (accepted_append.mpr ⟨accepted_groupPreface g,
      accepted_append.mpr ⟨orderly.accepted, accepted_of_reports_eq_nil hquiet⟩⟩)
  | @refused before orderly event ofTurn e =>
    have hbefore : (groupPreface g (.ok ()) ++ before).Accepted :=
      accepted_append.mpr ⟨accepted_groupPreface g, orderly.accepted⟩
    have hteardown : Aftermath filter [g] e ([] ++ (groupPreface g (.ok ()) ++ before)) event
        (own ++ teardownLog g.name r) := .teardown List.mem_cons_self orderly ofTurn turns hstep
    simpa using Stops.refused hbefore hquiet hteardown

/-- Groups stop at the first event that is refused, up to the teardown of the group in progress. -/
theorem groups_stop {groups : List Group} (hgroups : ∀ g ∈ groups, ∃ calls, g.Within calls)
    (h : Each (runGroup filter) groups s j r s') : Stops filter groups j r := by
  induction h with
  | done => exact .taken (accepted_of_reports_eq_nil rfl)
  | @stopped g groups s j e s' first =>
    obtain ⟨calls, hg⟩ := hgroups g List.mem_cons_self
    have hnone : Accepted [] := accepted_of_reports_eq_nil rfl
    exact ((plays_runGroup first).stops hg).append_left (by simp) hnone
  | @next g groups s j₁ s₁ j₂ r s' first rest ih =>
    obtain ⟨calls, hg⟩ := hgroups g List.mem_cons_self
    have hrest := ih fun g hmem => hgroups g (List.mem_cons_of_mem _ hmem)
    cases (plays_runGroup first).stops hg with
    | taken accepted => exact hrest.append_left (List.subset_cons_self ..) accepted

/-! ## Runs -/

variable {b : Battery} {runId : String} {startedAt : Int64}
  {result : Except HarnessError RunSummary}

/-- A run ends with its aftermath at the first event that is refused, and with the error. -/
theorem RunCourse.refusal (hgroups : ∀ g ∈ b.groups, ∃ calls, g.Within calls)
    (h : RunCourse b runId startedAt j result) :
    (j.Accepted ∧ ∃ summary, result = .ok summary) ∨
      ∃ (before tail : Journal) (event : ReportEvent) (e : HarnessError),
        j = before ++ ⟨.report event, .error e⟩ :: tail ∧ before.Accepted ∧ tail.reports = [] ∧
        Aftermath b.filter b.groups e before event tail ∧ result = .error e := by
  have hpreface : (b.preface runId startedAt (.ok ())).Accepted :=
    accepted_cons.mpr ⟨accepted_of_reports_eq_nil rfl, accepted_report _⟩
  cases h with
  | refused e =>
    exact .inr ⟨_, [], .beginRun ⟨runId, startedAt, b.execModel⟩, e, List.singleton_append.symm,
      accepted_of_reports_eq_nil rfl, rfl, .beginRun _, rfl⟩
  | stopped groups =>
    cases groups_stop hgroups groups with
    | refused accepted quiet aftermath =>
      exact .inr ⟨_, _, _, _, (List.append_assoc ..).symm, accepted_append.mpr ⟨hpreface, accepted⟩,
        quiet, aftermath.append_left (List.Subset.refl _) _, rfl⟩
  | @ended parts s groups answer =>
    cases groups_stop hgroups groups with
    | taken accepted =>
      -- what is left is the end of the run, which is taken or refused
      have hparts : (b.preface runId startedAt (.ok ()) ++ parts).Accepted :=
        accepted_append.mpr ⟨hpreface, accepted⟩
      obtain ⟨note, hclosing, hnote⟩ : ∃ note : Entry, closing { s with complete := true } answer
          = [note] ++ [⟨.report (.finish { s with complete := true }), answer⟩] ∧
          Accepted [note] := ⟨_, rfl, accepted_of_reports_eq_nil rfl⟩
      have hbefore := accepted_append.mpr ⟨hparts, hnote⟩
      rw [hclosing, ← List.append_assoc, ← List.append_assoc]
      rcases answer with e | ⟨⟩
      · exact .inr ⟨_, [], _, e, rfl, hbefore, rfl, .finish _, rfl⟩
      · exact .inl ⟨accepted_append.mpr ⟨hbefore, accepted_report _⟩, _, rfl⟩

/-! ## The standard battery -/

/-- Let one reporter take every event, and let another refuse the `n`-th with the error `e`, if
there are so many. With the other reporter a run of the standard battery gives `e`, the events that
are taken are the first `n`, and what is asked is what the first run asked before the event, and
behind it the teardown of the group in progress; nothing at all if no group was in progress. -/
theorem standard_refused {κ ρ : Type} (kernel : Kernel κ) (reporter : Reporter ρ) (k : κ) (r : ρ)
    (takes : ∀ event r, (reporter.receive event r).1 = .ok ()) {c : HarnessConfig} {b : Battery}
    (hb : standard c = .ok b) (runId : String) (startedAt : Int64) (n : Nat) (e : HarnessError) :
    let full := (b.run runId startedAt).run kernel reporter k r
    let cut := (b.run runId startedAt).run kernel (reporter.refusing n e) k (0, r)
    n < full.journal.reports.length →
    cut.result = .error e ∧ cut.journal.taken = full.journal.reports.take n ∧
    ∃ (before after tail : Journal) (event : ReportEvent),
      full.journal = before ++ ⟨.report event, .ok ()⟩ :: after ∧
      cut.journal = before ++ ⟨.report event, .error e⟩ :: tail ∧
      full.journal.reports[n]? = some event ∧
      (full.journal.trace = before.trace ++ after.trace ∧
        cut.journal.trace = before.trace ++ tail.trace) ∧
      Aftermath b.filter b.groups e before event tail ∧ (event.ofTurn = false → tail = []) := by
  intro full cut hn
  obtain ⟨missing, existing, hc, rfl⟩ := standard_eq_ok hb
  have accepted : full.journal.Accepted := Program.run_accepted kernel reporter takes _ k r
  have hforks : Forks e n full.journal cut.journal :=
    Program.run_refusing kernel reporter takes e _ k r (Nat.zero_add n)
  obtain ⟨before, after, tail, event, hfull, hcut, hlength⟩ := hforks.split hn
  have hbefore : before.Accepted := by
    rw [hfull, accepted_append] at accepted
    exact accepted.1
  have hcourse : RunCourse (ofRequests c missing existing) runId startedAt cut.journal cut.result :=
    plays_run (Program.run_plays ..)
  obtain ⟨haccepted, -⟩ | ⟨before', tail', event', e', hcut', hbefore', hquiet, haftermath,
    hresult⟩ := hcourse.refusal (within_ofRequests hc)
  · -- the cut run has a refused event
    rw [hcut] at haccepted
    cases haccepted event (.error e) (by simp)
  obtain ⟨rfl, rfl, rfl, rfl⟩ := first_refused_unique hbefore hbefore' (hcut.symm.trans hcut')
  have hevents : full.journal.reports = before.reports ++ event :: after.reports := by
    rw [hfull, reports_append, reports_cons]
    rfl
  refine ⟨hresult, ?_, before, after, tail, event, hfull, hcut, ?_, ⟨?_, ?_⟩, haftermath,
    haftermath.eq_nil⟩
  · have htail : taken (⟨.report event, .error e⟩ :: tail) = [] := by
      change tail.taken = []
      exact taken_of_reports_eq_nil hquiet
    rw [hcut, hevents, taken_append, taken_of_accepted hbefore, htail, List.append_nil,
      List.take_left' hlength]
  · rw [hevents, ← hlength]
    simp
  · rw [hfull, trace_append, trace_cons]
    rfl
  · rw [hcut, trace_append, trace_cons]
    rfl

/-- A run of the default battery on the modelled machine, stopped within its third group. -/
theorem standard_refused_default : ∃ (b : Battery), standard {} = .ok b ∧
    17 < ((b.run "run" 0).run Host.Machine.kernel recording
      Host.Machine.start []).journal.reports.length ∧
    ((b.run "run" 0).run Host.Machine.kernel (recording.refusing 17 (.output "full"))
      Host.Machine.start (0, [])).result = .error (.output "full") := by
  refine ⟨_, rfl, ?many, (standard_refused (c := {}) Host.Machine.kernel recording
    Host.Machine.start [] (fun _ _ => rfl) rfl "run" 0 17 (.output "full") ?many).1⟩
  decide +kernel

end Battery

end KernelProbe
