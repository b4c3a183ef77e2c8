import KernelProbe.Proofs.Report.Rendering
import KernelProbe.Proofs.Session.Stream
import KernelProbe.Proofs.Session.Truncation

/-!
# The text log of a run

`Battery.rendering` makes the pieces of the text log of a run from the plan, what is known of the
run before its first group, and its records. The log itself is written event by event by a reporter
with a memory. It comes to the same (`standard_rendering`) because no two entries of a plan have the
same name: in front of an entry's turn the log remembers the name of an earlier entry or none
(`NewTo`), so that the entry gets its header, with its begin event or its record, and behind the
turn it remembers the entry's own name. `writes_entry` is the step for one turn, `writes_turns` and
`writes_groups` go along the turns and the groups.
-/

namespace KernelProbe

open TextLog (Piece Writes)

/-- The pieces of the turn of an entry, which ends with `record`, behind the records `past`. -/
def PlanEntry.pieces (entry : PlanEntry) (past : List ProbeRecord) (record : ProbeRecord) :
    List Piece :=
  (if entry.enabled && entry.spec.mayNotReturn then [.checkpoint past] else []) ++
    .probeHeader entry.spec.name entry.spec.syscalls ::
      (Piece.ofEvidence record.evidence ++ [.verdict record])

@[simp] theorem RunInfo.records_tally (info : RunInfo) (records : List ProbeRecord)
    (complete : Bool) : (info.tally records complete).records = records := rfl

theorem RunInfo.counted_tally (info : RunInfo) (records : List ProbeRecord) (complete : Bool) :
    (info.tally records complete).Counted := ⟨rfl, rfl, rfl⟩

/-- The log does not remember the name of any of the entries. -/
def NewTo (current : Option String) (entries : List PlanEntry) : Prop :=
  ∀ entry ∈ entries, current ≠ some entry.spec.name

namespace Battery

/-- The pieces of the turns of some entries, which end with `records`, behind the records `past` and
an entry of `group`: a group has its header in front of its first entry. -/
def sections :
    (group : Option String) → List PlanEntry → (past records : List ProbeRecord) → List Piece
  | group, entry :: entries, past, record :: records =>
    (if group = some entry.group then [] else [.groupHeader entry.group]) ++
      entry.pieces past record ++ sections (some entry.group) entries (past ++ [record]) records
  | _, _, _, _ => []

/-- The pieces of the text log of a run, from what is known before its first group, its plan and its
summary. -/
def rendering (info : RunInfo) (plan : List PlanEntry) (summary : RunSummary) : List Piece :=
  .runLine info :: sections none plan [] summary.records ++
    [.table summary.records, .totals summary.records]

variable {color : Bool} {info : RunInfo} {current : Option String} {filter : ProbeFilter}
  {group : String} {entry : PlanEntry} {entries later : List PlanEntry} {record : ProbeRecord}
  {past own records : List ProbeRecord}

/-! ## Turns -/

/-- Of an entry's turn, only the header and the verdict are looked for. -/
theorem filterMap_pieces {α : Type} {part? : Piece → Option α}
    (hcheckpoint : ∀ s, part? (.checkpoint s) = none)
    (hevidence : ∀ key value, part? (.evidence key value) = none) :
    (entry.pieces past record).filterMap part?
      = (part? (.probeHeader entry.spec.name entry.spec.syscalls)).toList
        ++ (part? (.verdict record)).toList := by
  unfold PlanEntry.pieces
  cases hheader : part? (.probeHeader entry.spec.name entry.spec.syscalls) <;>
    cases hverdict : part? (.verdict record) <;> split <;>
    simp [hcheckpoint, Piece.filterMap_ofEvidence hevidence, hheader, hverdict]

@[simp] theorem groups_pieces : (entry.pieces past record).filterMap Piece.group? = [] :=
  filterMap_pieces (fun _ => rfl) fun _ _ => rfl

@[simp] theorem headers_pieces : (entry.pieces past record).filterMap Piece.header?
    = [(entry.spec.name, entry.spec.syscalls)] :=
  filterMap_pieces (fun _ => rfl) fun _ _ => rfl

@[simp] theorem verdicts_pieces :
    (entry.pieces past record).filterMap Piece.verdict? = [record] :=
  filterMap_pieces (fun _ => rfl) fun _ _ => rfl

/-- Every entry has one header and one verdict among the pieces. -/
theorem parts_sections (prev : Option String) (past : List ProbeRecord)
    (h : records.length = entries.length) :
    (sections prev entries past records).filterMap Piece.header?
        = entries.map (fun entry => (entry.spec.name, entry.spec.syscalls)) ∧
      (sections prev entries past records).filterMap Piece.verdict? = records := by
  induction entries generalizing prev past records with
  | nil =>
    obtain rfl := List.length_eq_zero_iff.mp h
    exact ⟨rfl, rfl⟩
  | cons entry entries ih =>
    cases records with
    | nil => cases h
    | cons record records =>
      obtain ⟨hheaders, hverdicts⟩ := ih (some entry.group) (past ++ [record]) (Nat.succ.inj h)
      unfold sections
      split <;> simp [List.filterMap_cons, hheaders, hverdicts, Piece.header?, Piece.verdict?]

/-- An entry that is new to the log gets its header once, with its begin event or its record. -/
theorem writes_entry (color : Bool) (info : RunInfo) (past : List ProbeRecord)
    (hmatch : entry.Matches record) (hnew : current ≠ some entry.spec.name) :
    Writes color current (entry.stream info past record) (entry.pieces past record)
      (some entry.spec.name) := by
  have hname : some entry.spec.name = some record.probe := congrArg some hmatch.probe.symm
  have hheader : Piece.probeHeader record.probe record.syscalls
      = .probeHeader entry.spec.name entry.spec.syscalls := by rw [hmatch.probe, hmatch.syscalls]
  cases henabled : entry.enabled with
  | false =>
    -- the record is the first that the log hears of the probe
    have hrecord : Writes color current [.record record] _ _ :=
      TextLog.writes_record_of_ne (hname ▸ hnew)
    simpa [PlanEntry.stream, PlanEntry.pieces, henabled, hheader, hname] using hrecord
  | true =>
    -- the begin event wrote the header, and nothing came between
    have hbegin : Writes color current _ _ _ :=
      (TextLog.writes_beginProbe entry.group entry.spec).append (TextLog.writes_record_of_eq hname)
    cases hmay : entry.spec.mayNotReturn with
    | false => simpa [PlanEntry.stream, PlanEntry.pieces, henabled, hmay] using hbegin
    | true =>
      have hcheckpoint := (TextLog.writes_checkpoint (info.counted_tally past false)).append hbegin
      simpa [PlanEntry.stream, PlanEntry.pieces, henabled, hmay] using hcheckpoint

theorem NewTo.behind (hnodup : ((entry :: entries).map (·.spec.name)).Nodup) :
    NewTo (some entry.spec.name) entries := by
  intro other hother heq
  have hmem := List.mem_map_of_mem (f := fun entry : PlanEntry => entry.spec.name) hother
  rw [← Option.some.inj heq] at hmem
  exact (List.nodup_cons.mp hnodup).1 hmem

/-- Behind an entry of the same group, the turns of a group have no group header. -/
theorem writes_turns (color : Bool) (info : RunInfo) (past : List ProbeRecord)
    (hgroup : ∀ entry ∈ entries, entry.group = group)
    (hmatch : List.Forall₂ PlanEntry.Matches entries own)
    (hnodup : ((entries ++ later).map (·.spec.name)).Nodup)
    (hnew : NewTo current (entries ++ later)) :
    ∃ pieces current', Writes color current (turnsStream info entries past own) pieces current' ∧
      NewTo current' later ∧ pieces.filterMap Piece.group? = [] ∧
      ∀ others, sections (some group) (entries ++ later) past (own ++ others)
        = pieces ++ sections (some group) later (past ++ own) others := by
  induction hmatch generalizing current past with
  | nil => exact ⟨[], current, TextLog.writes_nil, hnew, rfl, by simp⟩
  | @cons entry record entries own hmatch hrest ih =>
    obtain ⟨rfl, hgroups⟩ := List.forall_mem_cons.mp hgroup
    have hentry := writes_entry color info past hmatch (hnew entry List.mem_cons_self)
    obtain ⟨pieces, current', hwrites, hnew', hnone, hsections⟩ :=
      ih (past ++ [record]) hgroups (List.nodup_cons.mp hnodup).2 (NewTo.behind hnodup)
    refine ⟨_, current', hentry.append hwrites, hnew', by simp [hnone], fun others => ?_⟩
    simp [sections, hsections]

/-! ## Groups -/

/-- Behind an entry of another group, a group has its header in front of its first entry. -/
theorem sections_of_ne {prev : Option String} (later : List PlanEntry)
    (past others : List ProbeRecord) (hprev : prev ≠ some group)
    (hgroup : ∀ entry ∈ entries, entry.group = group)
    (hentries : entries ≠ []) (hmatch : List.Forall₂ PlanEntry.Matches entries own) :
    sections prev (entries ++ later) past (own ++ others)
      = .groupHeader group ::
        sections (some group) (entries ++ later) past (own ++ others) := by
  cases hmatch with
  | nil => exact absurd rfl hentries
  | cons _ _ =>
    obtain ⟨rfl, -⟩ := List.forall_mem_cons.mp hgroup
    simp [sections, hprev]

/-- The events of groups with names of their own come to the turns of their entries, with a header
for each group. -/
theorem writes_groups (color : Bool) (info : RunInfo) (past : List ProbeRecord)
    {groups : List Group} {prev : Option String} (hentries : ∀ g ∈ groups, g.specs ≠ [])
    (hgroups : (groups.map (·.name)).Nodup)
    (hprev : ∀ g ∈ groups, prev ≠ some g.name)
    (hmatch : List.Forall₂ PlanEntry.Matches
      (groups.flatMap fun g => g.specs.map (Battery.entry filter g.name)) records)
    (hnodup : ((groups.flatMap fun g => g.specs.map (Battery.entry filter g.name)).map
      (·.spec.name)).Nodup)
    (hnew : NewTo current (groups.flatMap fun g => g.specs.map (Battery.entry filter g.name))) :
    let pieces := sections prev
      (groups.flatMap fun g => g.specs.map (Battery.entry filter g.name)) past records
    pieces.filterMap Piece.group? = groups.map (·.name) ∧
      ∃ current', Writes color current (groupsStream info filter groups past records) pieces
        current' := by
  induction groups generalizing current prev past records with
  | nil =>
    obtain rfl := List.forall₂_nil_left_iff.mp hmatch
    exact ⟨rfl, current, TextLog.writes_nil⟩
  | cons g groups ih =>
    obtain ⟨hfirst, hothers⟩ := List.forall_mem_cons.mp hentries
    obtain ⟨hname, hnames⟩ := List.nodup_cons.mp hgroups
    rw [List.flatMap_cons] at hmatch hnodup hnew ⊢
    -- the records fall into those of the group and those of the others
    have hown := List.forall₂_take g.specs.length hmatch
    have hrest := List.forall₂_drop g.specs.length hmatch
    rw [List.take_left' (List.length_map ..)] at hown
    rw [List.drop_left' (List.length_map ..)] at hrest
    have hgroup : ∀ entry ∈ g.specs.map (Battery.entry filter g.name), entry.group = g.name := by
      intro entry hentry
      obtain ⟨spec, -, rfl⟩ := List.mem_map.mp hentry
      rfl
    obtain ⟨pieces, current₁, hturns, hnew₁, hnone, hsections⟩ :=
      writes_turns color info past hgroup hown hnodup hnew
    have hprev' : ∀ g' ∈ groups, some g.name ≠ some g'.name := by
      exact fun g' hg' heq => hname (List.mem_map.mpr ⟨g', hg', (Option.some.inj heq).symm⟩)
    rw [List.map_append] at hnodup
    obtain ⟨hheaders, current₂, hwrites⟩ := ih (past ++ records.take g.specs.length) hothers hnames
      hprev' hrest hnodup.of_append_right hnew₁
    have hall := ((TextLog.writes_beginGroup g.name).append hturns).append hwrites
    have hheader := sections_of_ne
      (groups.flatMap fun g => g.specs.map (Battery.entry filter g.name)) past
      (records.drop g.specs.length) (hprev g List.mem_cons_self) hgroup (by simpa using hfirst) hown
    rw [hsections, List.take_append_drop] at hheader
    dsimp only
    rw [hheader]
    exact ⟨by simp [Piece.group?, hnone, hheaders], current₂, hall⟩

/-! ## Runs -/

theorem specs_ne_nil {c : HarnessConfig} {missing existing : ExecRequest} :
    ∀ g ∈ (ofRequests c missing existing).groups, g.specs ≠ [] := by
  simp only [ofRequests, List.forall_mem_cons]
  simp [Group.specs, Output.group, Identity.group, Files.group, Memory.group, Concurrency.group,
    Uname.group, Lifecycle.group]

/-- No two entries in the plan of a standard battery have the same name. -/
theorem nodup_specNames {c : HarnessConfig} {missing existing : ExecRequest}
    (hc : c.Sound missing existing) :
    ((ofRequests c missing existing).plan.map (·.spec.name)).Nodup := by
  have hnames : (ofRequests c missing existing).plan.map (·.spec.name)
      = (roster c.mapLengths).flatten.map ProbeId.name := by
    simpa [Function.comp_def] using
      congrArg (List.map Prod.snd)
        (map_name_plan : (ofRequests c missing existing).plan.map _ = _)
  rw [hnames]
  exact (nodup_roster hc.distinct).map fun _ _ => ProbeId.name_inj

/-- The stream of a standard battery comes to its rendering, with a header for each group. -/
theorem writes_stream (color : Bool) (info : RunInfo) {c : HarnessConfig}
    {missing existing : ExecRequest} (hc : c.Sound missing existing)
    (hmatch : List.Forall₂ PlanEntry.Matches (ofRequests c missing existing).plan records) :
    let pieces := rendering info (ofRequests c missing existing).plan (info.tally records true)
    pieces.filterMap Piece.group? = (ofRequests c missing existing).groupNames ∧
      ∃ current, Writes color none ((ofRequests c missing existing).stream info records) pieces
        current := by
  obtain ⟨hheaders, current, hgroups⟩ := writes_groups color info [] specs_ne_nil nodup_names
    (fun _ _ => (Option.some_ne_none _).symm) hmatch (nodup_specNames hc)
    fun _ _ => (Option.some_ne_none _).symm
  have hall := ((TextLog.writes_beginRun info).append hgroups).append
    (TextLog.writes_finish (info.counted_tally records true))
  refine ⟨?_, current, hall⟩
  simp only [rendering, List.filterMap_cons, List.cons_append, List.filterMap_append, Piece.group?,
    List.filterMap_nil, List.append_nil]
  exact hheaders

/-- A run against a sink that takes everything writes its rendering. -/
theorem run_rendered {κ : Type} (kernel : Kernel κ) (k : κ) (color : Bool) {sink : Sink}
    (hopen : sink.Open) {c : HarnessConfig} {missing existing : ExecRequest}
    (hc : c.Sound missing existing) (runId : String) (startedAt : Int64) :
    let info : RunInfo := ⟨runId, startedAt, c.execModel⟩
    let b := ofRequests c missing existing
    let run := (b.run runId startedAt).run kernel TextLog.reporter k { color, sink }
    ∃ summary, run.result = .ok summary ∧ summary.records = run.journal.records ∧
      let pieces := rendering info b.plan summary
      run.reporter.sink.written = sink.written ++ Text.encode (TextLog.textOf color pieces) ∧
      List.Forall₂ PlanEntry.Matches b.plan summary.records ∧
      pieces.filterMap Piece.group? = b.groupNames ∧
      pieces.filterMap Piece.header?
        = b.plan.map (fun entry => (entry.spec.name, entry.spec.syscalls)) ∧
      pieces.filterMap Piece.verdict? = summary.records := by
  intro info b run
  have hgroups := within_ofRequests hc
  have accepted : run.journal.Accepted := (Program.run_open TextLog.fills kernel _ k hopen).1
  have hcourse : RunCourse b runId startedAt run.journal run.result :=
    plays_run (Program.run_plays ..)
  obtain ⟨records, hlength, hresult, hreports⟩ :=
    hcourse.reported hgroups accepted (show info = _ from rfl)
  -- the records of the summary are those of the plan's entries
  obtain ⟨summary, hsummary, -, hrecords, -, hmatch⟩ := hcourse.completed hgroups accepted
  cases hresult.symm.trans hsummary
  rw [← hrecords] at hmatch
  obtain ⟨hheaders, current, hwrites⟩ := writes_stream color info hc hmatch
  obtain ⟨hnames, hverdicts⟩ := parts_sections none [] hlength
  refine ⟨info.tally records true, hresult, hrecords, ?_, hmatch, hheaders, ?_, ?_⟩
  · exact TextLog.written_of_writes hopen (hreports ▸ hwrites)
  · simpa [rendering, List.filterMap_cons, Piece.header?] using hnames
  · simpa [rendering, List.filterMap_cons, Piece.verdict?] using hverdicts

/-- What the text log of a run holds in a sink that takes everything: the rendering of the plan and
the summary. It has a header for each group, and for each entry of the plan, whether the filter lets
its probe run or not, one header and one verdict; no two entries have the same name. -/
theorem standard_rendering {κ : Type} (kernel : Kernel κ) (k : κ) (color : Bool) {sink : Sink}
    (hopen : sink.Open) {c : HarnessConfig} {b : Battery} (hb : standard c = .ok b) (runId : String)
    (startedAt : Int64) :
    let info : RunInfo := ⟨runId, startedAt, c.execModel⟩
    let run := (b.run runId startedAt).run kernel TextLog.reporter k { color, sink }
    ∃ summary, run.result = .ok summary ∧
      let pieces := rendering info b.plan summary
      run.reporter.sink.written = sink.written ++ Text.encode (TextLog.textOf color pieces) ∧
      List.Forall₂ PlanEntry.Matches b.plan summary.records ∧
      pieces.filterMap Piece.group? = b.groupNames ∧
      pieces.filterMap Piece.header?
        = b.plan.map (fun entry => (entry.spec.name, entry.spec.syscalls)) ∧
      pieces.filterMap Piece.verdict? = summary.records ∧
      (b.plan.map (·.spec.name)).Nodup := by
  intro info run
  obtain ⟨missing, existing, hc, rfl⟩ := standard_eq_ok hb
  obtain ⟨summary, hresult, -, hwritten, hmatch, hgroups, hheaders, hverdicts⟩ :=
    run_rendered kernel k color hopen hc runId startedAt
  exact ⟨summary, hresult, hwritten, hmatch, hgroups, hheaders, hverdicts, nodup_specNames hc⟩

/-- The text log of a run of the default battery on the modelled machine. -/
theorem standard_rendering_default : ∃ (b : Battery) (summary : RunSummary), standard {} = .ok b ∧
    ((b.run "run" 0).run Host.Machine.kernel TextLog.reporter Host.Machine.start
      {}).reporter.sink.written
      = Text.encode (TextLog.textOf false (rendering ⟨"run", 0, .spawn⟩ b.plan summary)) := by
  obtain ⟨summary, -, hwritten, -⟩ := standard_rendering (c := {}) Host.Machine.kernel
    Host.Machine.start false (show Sink.Open {} from ⟨rfl, rfl⟩) rfl "run" 0
  exact ⟨_, summary, rfl, hwritten⟩

end Battery

end KernelProbe
