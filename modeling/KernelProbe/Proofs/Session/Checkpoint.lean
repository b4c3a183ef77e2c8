import KernelProbe.Proofs.Session.Stream

/-!
# The checkpoint before a call that may not come back

If a success of `execve` replaces the caller, nothing that a run does behind the call of its last
probe is sure to happen. `Saved` has what therefore stands before the checkpoint, and what comes
behind it: all other probes are recorded and counted, all other groups are torn down (`Concluded`),
the witness of the probe of a missing path is closed (`Cleared`), and the call is the next, and
only, dealing with the kernel.

No other probe may not return, so that there is no second checkpoint (`checkpoints_stream`).
-/

namespace KernelProbe

/-! ## Checkpoints -/

/-- The run so far, if the event is a checkpoint. -/
def ReportEvent.checkpoint? : ReportEvent → Option RunSummary
  | .checkpoint s => some s
  | _ => none

/-- The checkpoints that were reported. -/
def Journal.checkpoints (j : Journal) : List RunSummary :=
  j.reports.filterMap ReportEvent.checkpoint?

theorem Journal.checkpoints_append (j₁ j₂ : Journal) :
    checkpoints (j₁ ++ j₂) = j₁.checkpoints ++ j₂.checkpoints := by
  rw [checkpoints, reports_append, List.filterMap_append]
  rfl

/-- The probe of the entry comes back, if it runs at all. -/
def PlanEntry.Returns (entry : PlanEntry) : Prop :=
  entry.enabled = true → entry.spec.mayNotReturn = false

namespace Battery

open Journal Staged

variable {info : RunInfo} {past records : List ProbeRecord} {filter : ProbeFilter}
  {entries : List PlanEntry} {groups : List Group} {b : Battery}

theorem checkpoints_turnStream {entry : PlanEntry} (h : entry.Returns) (record : ProbeRecord) :
    (entry.stream info past record).filterMap ReportEvent.checkpoint? = [] := by
  unfold PlanEntry.stream
  by_cases hon : entry.enabled = true
  · rw [if_pos hon, h hon]
    rfl
  · rw [if_neg hon]
    rfl

theorem checkpoints_turnsStream (h : ∀ entry ∈ entries, entry.Returns) :
    (turnsStream info entries past records).filterMap ReportEvent.checkpoint? = [] := by
  induction entries generalizing past records with
  | nil => rfl
  | cons entry entries ih =>
    cases records with
    | nil => rfl
    | cons record records =>
      rw [turnsStream, List.filterMap_append,
        checkpoints_turnStream (h entry List.mem_cons_self),
        ih fun entry hmem => h entry (List.mem_cons_of_mem _ hmem)]
      rfl

/-- There is no checkpoint in the stream of groups whose probes come back. -/
theorem checkpoints_groupsStream
    (h : ∀ x ∈ groups.flatMap fun g => g.specs.map (entry filter g.name), x.Returns) :
    (groupsStream info filter groups past records).filterMap ReportEvent.checkpoint? = [] := by
  induction groups generalizing past records with
  | nil => rfl
  | cons g groups ih =>
    rw [List.flatMap_cons, List.forall_mem_append] at h
    rw [groupsStream, List.filterMap_append, ih h.2, List.append_nil]
    exact checkpoints_turnsStream h.1

/-- There is no checkpoint in the stream of a battery whose probes come back. -/
theorem checkpoints_stream (h : ∀ x ∈ b.plan, x.Returns) :
    (b.stream info records).filterMap ReportEvent.checkpoint? = [] := by
  rw [stream, List.filterMap_append]
  exact List.append_eq_nil_iff.mpr ⟨checkpoints_groupsStream h, rfl⟩

/-! ## What is over -/

variable {s s' : RunSummary} {j : Journal}

/-- Groups are over: the probes of each had their turns, and it was torn down. -/
inductive Concluded (filter : ProbeFilter) : List Group → Journal → Prop
  /-- No group is left. -/
  | done : Concluded filter [] []
  /-- The first group is over: its own step for the teardown was taken to its end, from the context
  that its probes have left. The others follow. -/
  | next {g : Group} {groups : List Group} {s s' : RunSummary} {left c : g.Context}
      {probes own rest : Journal} {r : Except Halt Unit}
      (turns : Turns filter g.name g.trials s g.start probes (.ok ()) s' left)
      (tornDown : g.teardown.Plays left own r c) (others : Concluded filter groups rest) :
      Concluded filter (g :: groups)
        (groupPreface g (.ok ()) ++ (probes ++ (own ++ teardownLog g.name r)) ++ rest)

/-- Groups that come to their end are over. -/
theorem groups_concluded (hgroups : ∀ g ∈ groups, ∃ calls, g.Within calls)
    {r : Except HarnessError Unit} (h : Each (runGroup filter) groups s j r s') (hr : r = .ok ()) :
    Concluded filter groups j := by
  induction h with
  | done => exact .done
  | stopped first => cases hr
  | @next g groups s j₁ s₁ j₂ r s' first rest ih =>
    obtain ⟨calls, hg⟩ := hgroups g List.mem_cons_self
    obtain ⟨_, -, ⟨⟩, -⟩ | ⟨probes, teardown, left, c, rfl, turns, tornDown, -⟩ :=
      (plays_runGroup first).anatomy hg
    obtain ⟨own, r, hstep, rfl⟩ := plays_tearDown_iff.mp tornDown
    exact .next turns hstep (ih (fun g hmem => hgroups g (List.mem_cons_of_mem _ hmem)) hr)

/-- The turn of the probe of a missing path is over, and what it acquired is released. -/
inductive Cleared (filter : ProbeFilter) (missing : ExecRequest) : Journal → Prop
  /-- The probe was shut out. -/
  | shutOut {j : Journal} (off : filter.allows Lifecycle.groupName "execve_missing" = false)
      (idle : j.kernel = []) : Cleared filter missing j
  /-- The probe and its cleanup ran, and left no witness open. -/
  | ran {j own cleanup : Journal} {r r' : Except Halt Unit} {exam : Exam Lifecycle.Context}
      {left : Lifecycle.Context}
      (course : (Lifecycle.execMissingProbe missing).Course {} own r exam)
      (cleaned : (Lifecycle.execMissingProbe missing).cleanup.Plays exam.context cleanup r' left)
      (released : left.witnessFd = none) (kernel : j.kernel = own.kernel ++ cleanup.kernel) :
      Cleared filter missing j

variable {missing existing : ExecRequest} {model : ExecModel} {left c' : Lifecycle.Context}

/-- After its turn, the probe of a missing path has no witness open. -/
theorem missing_cleared
    (h : Turn filter Lifecycle.groupName (Lifecycle.execMissingProbe missing).trial s {} j (.ok ())
      s' left) : Cleared filter missing j ∧ left.witnessFd = none := by
  have hwithin := (Lifecycle.group_within missing missing .spawn).trials _ List.mem_cons_self
  obtain ⟨-, ⟨_, ⟨⟩⟩, -⟩ | ⟨front, record, rfl, -, -, ⟨off, rfl, -, rfl⟩ |
    ⟨-, own, outcome, evidence, elapsed, plays, -, hkernel⟩⟩ := h.recorded hwithin
  · exact ⟨.shutOut off rfl, rfl⟩
  · obtain ⟨j₁, lifecycle, context, j₂, cleanup, hcourse, hclean, -, hown, -⟩ :=
      Probe.plays_trial plays
    have hreleased : left.witnessFd = none := by
      rw [(Lifecycle.plays_closeWitness (Staged.plays_modify_bind.mp hclean)).1]
    refine ⟨.ran hcourse hclean hreleased ?_, hreleased⟩
    rw [kernel_append, hkernel, hown]
    exact List.append_nil _

/-- The identity of the probe of an existing program that is to replace the caller. -/
abbrev lastSpec : ProbeSpec := ⟨"execve_existing", [.execve], true⟩

/-- The turn of the last probe: the checkpoint, the begin of the probe, and its only call. -/
theorem existing_saved (on : filter.allows Lifecycle.groupName "execve_existing" = true)
    (h : Turn filter Lifecycle.groupName (Lifecycle.execExistingProbe existing .replace).trial s
      left j (.ok ()) s' c') :
    ∃ rest : Journal, j = checkpointNote lastSpec :: ⟨.report (.checkpoint s), .ok ()⟩ ::
        ⟨.report (.beginProbe Lifecycle.groupName lastSpec), .ok ()⟩ :: rest ∧
      rest.checkpoints = [] ∧ (∃ reply, rest.kernel = [⟨.call (.execve existing), reply⟩]) ∧
      c' = left := by
  cases h with
  | shutOut off answer => cases on.symm.trans off
  | @ran _ started own outcome evidence _ ended plays answer =>
    obtain ⟨own', r, hcourse, -, hkernel, hreports⟩ := Probe.plays_trial_of_no_cleanup rfl plays
    obtain ⟨hcontext, reply, rfl, -⟩ := Lifecycle.execExisting_course hcourse
    have hverdict : Silent [⟨.clock, ended⟩, verdictEntry lastSpec.name outcome] :=
      silent_verdict ended lastSpec.name outcome
    let record : ProbeRecord :=
      .of Lifecycle.groupName lastSpec outcome evidence (ended.since started)
    let rest : Journal := ⟨.clock, started⟩ :: (own ++
      ([⟨.clock, ended⟩, verdictEntry lastSpec.name outcome] ++
        [⟨.report (.record record), .ok ()⟩]))
    have hrest : rest.reports = [.record record] := by
      simp only [rest, reports_cons, reports_append, hreports, hverdict.2]
      rfl
    refine ⟨rest, rfl, ?_, ⟨reply, ?_⟩, hcontext⟩
    · rw [checkpoints, hrest]
      rfl
    · simp only [rest, kernel_cons, kernel_append, hkernel, hverdict.1]
      rfl

/-- Without an open witness, the teardown of the lifecycle group does nothing. -/
theorem tearDown_silent {c : Lifecycle.Context} (hclosed : left.witnessFd = none)
    (h : (tearDown Lifecycle.groupName Lifecycle.closeWitness left).Plays j c) : j.Silent := by
  obtain ⟨own, r, hown, hkernel, hreports⟩ := plays_tearDown h
  obtain ⟨-, -, ⟨-, rfl, -⟩ | ⟨fd, reply, hopen, -⟩⟩ := Lifecycle.plays_closeWitness hown
  · exact ⟨hkernel, hreports⟩
  · cases hclosed.symm.trans hopen

/-- The part of the lifecycle group: the turn of the probe of a missing path, then that of the last
probe, and nothing to tear down. -/
theorem lifecycle_saved (on : filter.allows Lifecycle.groupName "execve_existing" = true)
    (h : GroupPart filter (Lifecycle.group missing existing .replace) s j (.ok ()) s') :
    ∃ (turn rest : Journal) (s₁ : RunSummary) (left : Lifecycle.Context),
      j = groupPreface (Lifecycle.group missing existing .replace) (.ok ()) ++ (turn ++
        checkpointNote lastSpec :: ⟨.report (.checkpoint s₁), .ok ()⟩ ::
        ⟨.report (.beginProbe Lifecycle.groupName lastSpec), .ok ()⟩ :: rest) ∧
      Turn filter Lifecycle.groupName (Lifecycle.execMissingProbe missing).trial s {} turn (.ok ())
        s₁ left ∧
      rest.checkpoints = [] ∧ ∃ reply, rest.kernel = [⟨.call (.execve existing), reply⟩] := by
  have hwithin := Lifecycle.group_within missing existing .replace
  obtain ⟨_, -, ⟨⟩, -⟩ | ⟨probes, teardown, last, c, rfl, turns, tornDown, -⟩ := h.anatomy hwithin
  -- two turns make up the group
  cases turns with
  | @next _ _ _ turn p₁ _ _ _ first others =>
    obtain ⟨s₁, left⟩ := p₁
    cases others with
    | next second none =>
      cases none
      have hmissing : Turn filter Lifecycle.groupName (Lifecycle.execMissingProbe missing).trial s
          {} turn (.ok ()) s₁ left := plays_execute first
      obtain ⟨rest, rfl, hrest, ⟨reply, hcall⟩, rfl⟩ := existing_saved on (plays_execute second)
      obtain ⟨hkernel, hreports⟩ := tearDown_silent (missing_cleared hmissing).2 tornDown
      refine ⟨turn, rest ++ teardown, s₁, last, by simp, hmissing, ?_, reply, ?_⟩
      · rw [checkpoints_append, hrest, checkpoints, hreports]
        rfl
      · rw [kernel_append, hcall, hkernel, List.append_nil]

/-- What was planned is recorded and counted, and there was no checkpoint on the way. -/
structure Recorded (info : RunInfo) (entries : List PlanEntry) (j : Journal) (s : RunSummary) :
    Prop where
  matched : List.Forall₂ PlanEntry.Matches entries j.records
  tallied : s = info.tally j.records false
  checkpoints : j.checkpoints = []

/-- Groups whose probes come back record what was planned for them. -/
theorem groups_recorded (hgroups : ∀ g ∈ groups, ∃ calls, g.Within calls)
    (returns : ∀ x ∈ groups.flatMap fun g => g.specs.map (entry filter g.name), x.Returns)
    (h : Each (runGroup filter) groups s j (.ok ()) s') (hs : s = info.tally [] false) :
    Recorded info (groups.flatMap fun g => g.specs.map (entry filter g.name)) j s' := by
  obtain ⟨records, -, htally, hreports⟩ := groups_reported hgroups h rfl hs
  obtain ⟨hfold, hmatches⟩ := groups_matched hgroups h rfl
  -- the records in the summary are those that were pushed, one after another
  have hrecords : s'.records = j.records := by
    rw [hfold, RunSummary.records_foldl_push, hs]
    rfl
  refine ⟨hmatches, ?_, ?_⟩
  · rw [← hrecords, htally]
    rfl
  · rw [Journal.checkpoints, hreports]
    exact checkpoints_groupsStream returns

/-- The turn of a probe that comes back adds its entry. -/
theorem Recorded.turn {C : Type} {calls : List Syscall} {group : String} {trial : Trial C}
    {c c' : C} {own : Journal} (h : Recorded info entries j s) (ht : trial.Within calls)
    (returns : (entry filter group trial.spec).Returns)
    (hturn : Turn filter group trial s c own (.ok ()) s' c') :
    Recorded info (entries ++ [entry filter group trial.spec]) (j ++ own) s' := by
  obtain ⟨record, hrecord, rfl, hmatch⟩ := hturn.matched ht
  have htallied := h.tallied
  subst htallied
  obtain ⟨record', -, hreports⟩ := hturn.reported ht
  refine ⟨?_, ?_, ?_⟩
  · rw [records_append, hrecord]
    exact List.rel_append h.matched (.cons hmatch .nil)
  · rw [records_append, hrecord, info.tally_push]
  · rw [checkpoints_append, h.checkpoints, Journal.checkpoints, hreports,
      checkpoints_turnStream returns]
    rfl

/-- The journal of a run up to a checkpoint: the parts of some groups, the begin of the group `g`,
and a turn in it. -/
def upToCheckpoint (b : Battery) (runId : String) (startedAt : Int64) (parts : Journal) (g : Group)
    (turn : Journal) (spec : ProbeSpec) : Journal :=
  b.preface runId startedAt (.ok ()) ++ (parts ++ (groupPreface g (.ok ()) ++
    (turn ++ [checkpointNote spec])))

/-- What stands around the parts of groups and a turn records nothing, and is no checkpoint. -/
theorem Recorded.upToCheckpoint {parts turn : Journal} (h : Recorded info entries (parts ++ turn) s)
    (b : Battery) (runId : String) (startedAt : Int64) (g : Group) (spec : ProbeSpec) :
    Recorded info entries (b.upToCheckpoint runId startedAt parts g turn spec) s := by
  have hrecords : (b.upToCheckpoint runId startedAt parts g turn spec).records
      = (parts ++ turn).records := by
    have hfront : (b.preface runId startedAt (.ok ())).records = [] := rfl
    have hopening : (groupPreface g (.ok ())).records = [] := rfl
    have hnote : records [checkpointNote spec] = [] := rfl
    simp only [Battery.upToCheckpoint, records_append, hfront, hopening, hnote, List.nil_append,
      List.append_nil]
  refine ⟨hrecords ▸ h.matched, hrecords ▸ h.tallied, ?_⟩
  have hfront : (b.preface runId startedAt (.ok ())).checkpoints = [] := rfl
  have hopening : (groupPreface g (.ok ())).checkpoints = [] := rfl
  have hnote : Journal.checkpoints [checkpointNote spec] = [] := rfl
  have hown := h.checkpoints
  rw [checkpoints_append] at hown
  simp only [Battery.upToCheckpoint, checkpoints_append, hfront, hopening, hnote, List.nil_append,
    List.append_nil, hown]

/-! ## The standard battery -/

/-- The groups that come before the lifecycle group. -/
def earlierGroups (c : HarnessConfig) : List Group := [
  Output.group c.outputFd,
  Identity.group c.tlsSlots c.threadIdModel,
  Files.group,
  Memory.group c.mapLengths c.pageSize,
  Concurrency.group c.waitTimeout c.joinTimeout,
  Uname.group]

variable {c : HarnessConfig}

theorem groups_eq_append : (ofRequests c missing existing).groups
    = earlierGroups c ++ [Lifecycle.group missing existing c.execModel] := rfl

/-- The lines of a plan for the groups before the lifecycle group. -/
def earlierPlan (c : HarnessConfig) : List PlanEntry :=
  (earlierGroups c).flatMap fun g => g.specs.map (entry c.filter g.name)

/-- The line of a plan for the probe of a missing path. -/
def missingEntry (c : HarnessConfig) : PlanEntry :=
  entry c.filter Lifecycle.groupName ⟨"execve_missing", [.execve], false⟩

/-- The line of a plan for the last probe. -/
def lastEntry (c : HarnessConfig) : PlanEntry :=
  entry c.filter Lifecycle.groupName ⟨"execve_existing", [.execve], c.execModel == .replace⟩

theorem plan_eq_append : (ofRequests c missing existing).plan
    = earlierPlan c ++ [missingEntry c] ++ [lastEntry c] := by
  have hplan : (ofRequests c missing existing).plan = (earlierGroups c ++ [Lifecycle.group missing
      existing c.execModel]).flatMap fun g => g.specs.map (entry c.filter g.name) := rfl
  rw [hplan, List.flatMap_append, List.append_assoc]
  rfl

/-- The probes of the groups before the lifecycle group come back. -/
theorem mayNotReturn_earlier :
    ∀ g ∈ earlierGroups c, ∀ spec ∈ g.specs, spec.mayNotReturn = false := by
  have hall {g : Group} (h : g.specs.all (fun spec => !spec.mayNotReturn) = true) :
      ∀ spec ∈ g.specs, spec.mayNotReturn = false := by
    simpa using h
  have hmemory : ∀ spec ∈ (Memory.group c.mapLengths c.pageSize).specs,
      spec.mayNotReturn = false := by
    intro spec hspec
    obtain ⟨t, ht, rfl⟩ := List.mem_map.mp hspec
    rcases List.mem_cons.mp ht with rfl | ht
    · rfl
    · obtain ⟨length, -, ht⟩ := List.mem_flatMap.mp ht
      fin_cases ht <;> rfl
  refine List.forall_mem_cons.mpr ⟨hall rfl, List.forall_mem_cons.mpr ⟨hall rfl, ?_⟩⟩
  refine List.forall_mem_cons.mpr ⟨hall rfl, List.forall_mem_cons.mpr ⟨hmemory, ?_⟩⟩
  exact List.forall_mem_cons.mpr ⟨hall rfl, List.forall_mem_singleton.mpr (hall rfl)⟩

theorem returns_earlier : ∀ x ∈ earlierPlan c, x.Returns := by
  intro x hx
  obtain ⟨g, hg, hx⟩ := List.mem_flatMap.mp hx
  obtain ⟨spec, hspec, rfl⟩ := List.mem_map.mp hx
  exact fun _ => mayNotReturn_earlier g hg spec hspec

theorem returns_missing : (missingEntry c).Returns := fun _ => rfl

/-- If the caller goes on after a success, or the last probe is shut out, all probes come back. -/
theorem returns_plan (h : c.execModel = .spawn ∨
    c.filter.allows Lifecycle.groupName "execve_existing" = false) :
    ∀ x ∈ (ofRequests c missing existing).plan, x.Returns := by
  have hlast : (lastEntry c).Returns := by
    intro hon
    rcases h with hspawn | hoff
    · simp [lastEntry, entry, hspawn]
    · cases hoff.symm.trans hon
  simp only [plan_eq_append, List.forall_mem_append, List.forall_mem_singleton]
  exact ⟨⟨returns_earlier, returns_missing⟩, hlast⟩

/-- A run that saves its log before a call that may not come back. -/
structure Saved (c : HarnessConfig) (b : Battery) (info : RunInfo) (missing existing : ExecRequest)
    (before : Journal) (summary : RunSummary) (after : Journal) : Prop where
  /-- The lifecycle group is the last one. -/
  groups : b.groups = earlierGroups c ++ [Lifecycle.group missing existing .replace]
  /-- Every entry of the plan but the last has its record. -/
  recorded : ∃ others, b.plan = others ++ [lastEntry c] ∧
    List.Forall₂ PlanEntry.Matches others before.records
  /-- The totals are those of the records. -/
  counted : summary = info.tally before.records false
  /-- The earlier groups are torn down, and the probe of a missing path has cleaned up. -/
  finished : ∃ (parts turn : Journal),
    before = b.upToCheckpoint info.runId info.startedAt parts
      (Lifecycle.group missing existing .replace) turn lastSpec ∧
    Concluded b.filter (earlierGroups c) parts ∧ Cleared b.filter missing turn
  /-- The next event is the begin of the last probe. -/
  begins : after.reports.head? = some (.beginProbe Lifecycle.groupName lastSpec)
  /-- The next dealing with the kernel is the call, and there is no other. -/
  calls : ∃ reply, after.kernel = [⟨.call (.execve existing), reply⟩]

/-- Before its last probe takes its turn, a run of the standard battery saves its log, if a success
of the probe's call replaces the caller. -/
theorem RunCourse.saved {runId : String} {startedAt : Int64}
    {result : Except HarnessError RunSummary} (hc : c.Sound missing existing)
    (replaces : c.execModel = .replace)
    (on : c.filter.allows Lifecycle.groupName "execve_existing" = true)
    (h : RunCourse (ofRequests c missing existing) runId startedAt j result)
    (accepted : j.Accepted) :
    ∃ (before : Journal) (summary : RunSummary) (after : Journal),
      j = before ++ ⟨.report (.checkpoint summary), .ok ()⟩ :: after ∧ j.checkpoints = [summary] ∧
      Saved c (ofRequests c missing existing) ⟨runId, startedAt, .replace⟩ missing existing before
        summary after := by
  have hgroups := within_ofRequests hc
  have hearlier : ∀ g ∈ earlierGroups c, ∃ calls, g.Within calls :=
    fun g hg => hgroups g (List.mem_append_left _ hg)
  have hsplit : (ofRequests c missing existing).groups
      = earlierGroups c ++ [Lifecycle.group missing existing .replace] := by
    rw [groups_eq_append, replaces]
  have hmissing : (Lifecycle.execMissingProbe missing).trial.Within _ :=
    (Lifecycle.group_within missing existing .replace).trials _ List.mem_cons_self
  obtain ⟨_, s, groups, hj, -⟩ := h.ended_of_accepted accepted
  rw [hsplit] at groups
  obtain ⟨parts, s₁, part, rfl, hparts, hlast⟩ := groups.split
  have hrecorded : Recorded ⟨runId, startedAt, .replace⟩ (earlierPlan c) parts s₁ :=
    groups_recorded hearlier returns_earlier hparts rfl
  cases hlast with
  | next first none =>
    cases none
    obtain ⟨turn, rest, s₂, left, rfl, hturn, hrest, reply, hcall⟩ :=
      lifecycle_saved on (plays_runGroup first)
    have hbefore := (hrecorded.turn hmissing returns_missing hturn).upToCheckpoint
      (ofRequests c missing existing) runId startedAt (Lifecycle.group missing existing .replace)
      lastSpec
    let after : Journal := ⟨.report (.beginProbe Lifecycle.groupName lastSpec), .ok ()⟩ ::
      (rest ++ closing { s with complete := true } (.ok ()))
    have hafter : after.checkpoints = [] := by
      change checkpoints (rest ++ closing { s with complete := true } (.ok ())) = []
      rw [checkpoints_append, hrest]
      rfl
    have hcalls : after.kernel = [⟨.call (.execve existing), reply⟩] := by
      change kernel (rest ++ closing { s with complete := true } (.ok ())) = _
      rw [kernel_append, hcall]
      rfl
    have hwhole : j = (ofRequests c missing existing).upToCheckpoint runId startedAt parts
        (Lifecycle.group missing existing .replace) turn lastSpec ++
          ⟨.report (.checkpoint s₂), .ok ()⟩ :: after := by
      rw [hj]
      simp [after, upToCheckpoint]
    refine ⟨_, s₂, after, hwhole, ?_, ?_⟩
    · rw [hwhole, checkpoints_append, hbefore.checkpoints]
      exact congrArg (s₂ :: ·) hafter
    · exact {
        groups := hsplit
        recorded := ⟨earlierPlan c ++ [missingEntry c], plan_eq_append, hbefore.matched⟩
        counted := hbefore.tallied
        finished := ⟨parts, turn, rfl, groups_concluded hearlier hparts rfl,
          (missing_cleared hturn).1⟩
        begins := rfl
        calls := ⟨reply, hcalls⟩ }

/-- If the reporter takes every event, a run of the standard battery saves its log once, before the
call of its last probe, if that call may not come back: the checkpoint stands behind the records of
all other probes and the teardowns of the earlier groups, and before the configured call. If the
call is to come back, or is not made, there is no checkpoint. -/
theorem standard_checkpoint {κ ρ : Type} (kernel : Kernel κ) (reporter : Reporter ρ) (k : κ) (r : ρ)
    (takes : ∀ event r, (reporter.receive event r).1 = .ok ()) {c : HarnessConfig} {b : Battery}
    (hb : standard c = .ok b) (runId : String) (startedAt : Int64) :
    let run := (b.run runId startedAt).run kernel reporter k r
    (c.execModel = .replace → c.filter.allows "process_lifecycle" "execve_existing" = true →
      ∃ (missing existing : ExecRequest) (before : Journal) (summary : RunSummary)
        (after : Journal),
        (existing.path.text = c.execTarget ∧ existing.argv.map (·.text) = c.execArgv ∧
          existing.envp.map (·.text) = c.execEnvp) ∧
        run.journal = before ++ ⟨.report (.checkpoint summary), .ok ()⟩ :: after ∧
        run.journal.checkpoints = [summary] ∧
        Saved c b ⟨runId, startedAt, .replace⟩ missing existing before summary after) ∧
    (c.execModel = .spawn ∨ c.filter.allows "process_lifecycle" "execve_existing" = false →
      run.journal.checkpoints = []) := by
  intro run
  obtain ⟨missing, existing, hc, rfl⟩ := standard_eq_ok hb
  have hgroups := within_ofRequests hc
  have accepted : run.journal.Accepted := Program.run_accepted kernel reporter takes _ k r
  have hcourse : RunCourse (ofRequests c missing existing) runId startedAt run.journal run.result :=
    plays_run (Program.run_plays ..)
  refine ⟨fun replaces on => ?_, fun returns => ?_⟩
  · obtain ⟨before, summary, after, hwhole, hone, hsaved⟩ := hcourse.saved hc replaces on accepted
    exact ⟨missing, existing, before, summary, after,
      HarnessConfig.execRequest_texts hc.existing, hwhole, hone, hsaved⟩
  · obtain ⟨records, -, -, hreports⟩ := hcourse.reported hgroups accepted rfl
    rw [checkpoints, hreports]
    exact checkpoints_stream (returns_plan returns)

/-- A run of the default battery on the modelled machine, told that a success replaces the caller,
saves its log once. -/
theorem standard_checkpoint_default : ∃ (b : Battery) (summary : RunSummary),
    standard { execModel := .replace } = .ok b ∧
    ((b.run "run" 0).run Host.Machine.kernel recording Host.Machine.start []).journal.checkpoints
      = [summary] := by
  obtain ⟨hsaved, -⟩ := standard_checkpoint (c := { execModel := .replace }) Host.Machine.kernel
    recording Host.Machine.start [] (fun _ _ => rfl) rfl "run" 0
  obtain ⟨-, -, -, summary, -, -, -, hone, -⟩ := hsaved rfl (by decide)
  exact ⟨_, summary, rfl, hone⟩

end Battery

end KernelProbe
