import Mathlib.Algebra.Order.BigOperators.Group.List
import Mathlib.Algebra.Order.Ring.Nat
import KernelProbe.Kernel.Scripted
import KernelProbe.Proofs.Session.Checkpoint
import KernelProbe.Proofs.Session.Faults
import KernelProbe.Proofs.Session.Rendering

/-!
# Verdict lines and header lines

Whoever searches a text log for verdicts looks for the lines that begin with `verdictMark`, and for
probes at those that begin with `headerMark`. If no text in a piece has a line break of its own
(`Piece.Clean`), the marks begin just the lines of verdicts and of headers.

The texts that a kernel gives of itself, the paths of the two programs and the texts of faults come
out in the log as they are. If they are of one line, the log of a run has one line of either kind
for each record (`standard_verdictLines`), and if they are not, it need not (`forged_verdict`).
-/

namespace KernelProbe

open Text (OneLine Begins linesFrom)

namespace TextLog

namespace Piece

/-- The texts in a piece that are not the log's own have no line break, and a name of evidence
cannot be taken for the beginning of a verdict. -/
def Clean : Piece → Prop
  | runLine info => OneLine info.runId
  | groupHeader group => OneLine group
  | probeHeader name _ => OneLine name
  | evidence key value => Evidence.IsKey key ∧ OneLine value
  | verdict record => ∀ d, record.outcome.diagnosis? = some d → OneLine d.text
  | _ => True

variable {color : Bool} {piece : Piece}

/-! ### Line breaks -/

theorem oneLine_syscallNames (syscalls : List Syscall) :
    OneLine (", ".intercalate (syscalls.map Syscall.name)) :=
  Text.oneLine_join (by decide) (by simp)

theorem oneLine_totalsOf (records : List ProbeRecord) : OneLine (totalsOf records) := by
  simp +decide [totalsOf]

/-- The lines of a clean piece have no line breaks. -/
theorem oneLine_lines (h : piece.Clean) : ∀ line ∈ piece.lines color, OneLine line := by
  cases piece with
  | runLine info =>
    have hbold : OneLine (Text.Style.bold.paint color "sysprobe") :=
      Text.oneLine_paint (by decide) (by decide)
    have hmodel : OneLine info.execModel.name := by cases info.execModel <;> decide
    have hid : OneLine info.runId := h
    refine List.forall_mem_singleton.mpr ?_
    simp +decide [hbold, hmodel, hid]
  | groupHeader group =>
    have hgroup : OneLine group := h
    refine List.forall_mem_cons.mpr ⟨by decide, List.forall_mem_singleton.mpr ?_⟩
    exact Text.oneLine_paint (by decide) (by simp +decide [hgroup])
  | checkpoint records =>
    have hpaint : OneLine (Text.Style.yellowBold.paint color "checkpoint:") :=
      Text.oneLine_paint (by decide) (by decide)
    refine List.forall_mem_singleton.mpr ?_
    simp +decide [hpaint, oneLine_totalsOf]
  | probeHeader name syscalls =>
    have hname : OneLine (Text.Style.bold.paint color name) := Text.oneLine_paint (by decide) h
    refine List.forall_mem_singleton.mpr ?_
    simp +decide [hname, oneLine_syscallNames, headerMark]
  | evidence key value =>
    refine List.forall_mem_singleton.mpr ?_
    simp +decide [h.1.1, h.2]
  | verdict record =>
    have hword : OneLine (word color record.outcome) := by
      rcases record.outcome with _ | d | d <;> exact Text.oneLine_paint (by decide) (by decide)
    have hdiagnosis : OneLine (record.outcome.diagnosis?.elim "" (" " ++ ·.text)) := by
      cases hd : record.outcome.diagnosis? with
      | none => decide
      | some d =>
        have htext : OneLine d.text := h d hd
        simp +decide [htext]
    refine List.forall_mem_singleton.mpr ?_
    simp +decide [hword, hdiagnosis, verdictMark]
  | table records =>
    refine List.forall_mem_cons.mpr ⟨by decide, ?_⟩
    rintro _ hmem
    obtain ⟨line, hline, rfl⟩ := List.mem_map.mp hmem
    exact Text.oneLine_ofList.mpr (Text.of_mem_lines hline).1
  | totals records =>
    have hstyle : '\n' ∉ (totalsStyle records).start := by
      unfold totalsStyle
      split <;> decide
    exact List.forall_mem_singleton.mpr (Text.oneLine_paint hstyle (oneLine_totalsOf records))

/-! ### Marks -/

/-- What a line can begin with that is neither evidence nor a verdict nor the header of a probe. -/
def plainHeads : List Char :=
  ['\x1b', 's', '=', 'c', '+', '|'] ++ (List.range 16).map Nat.digitChar

theorem startsIn_totalsOf (records : List ProbeRecord) :
    Text.StartsIn plainHeads (totalsOf records) := by
  simp only [totalsOf, String.append_assoc]
  exact (Text.startsIn_decimal (by decide) _).append _

/-- The first characters of lines that are neither evidence nor a verdict nor a probe's header. -/
theorem startsIn_lines (hverdict : piece.verdict? = none) (hheader : piece.header? = none)
    (hevidence : ∀ key value, piece ≠ evidence key value) :
    ∀ line ∈ piece.lines color, line = "" ∨ Text.StartsIn plainHeads line := by
  cases piece with
  | runLine info =>
    refine List.forall_mem_singleton.mpr (.inr (Text.StartsIn.append ?_ _))
    exact Text.startsIn_paint rfl (by decide) ⟨'s', by decide, rfl⟩
  | groupHeader group =>
    refine List.forall_mem_cons.mpr ⟨.inl rfl, List.forall_mem_singleton.mpr (.inr ?_)⟩
    exact Text.startsIn_paint rfl (by decide) ⟨'=', by decide, by simp⟩
  | checkpoint records =>
    refine List.forall_mem_singleton.mpr (.inr (Text.StartsIn.append ?_ _))
    exact Text.startsIn_paint rfl (by decide) ⟨'c', by decide, rfl⟩
  | table records =>
    refine List.forall_mem_cons.mpr ⟨.inl rfl, fun _ hmem => .inr ?_⟩
    obtain ⟨line, hline, rfl⟩ := List.mem_map.mp hmem
    obtain ⟨-, rest, rfl | rfl⟩ := Text.of_mem_lines hline
    · exact ⟨'+', by decide, by simp⟩
    · exact ⟨'|', by decide, by simp⟩
  | totals records =>
    have hstyle : (totalsStyle records).start.head? = some '\x1b' := by
      unfold totalsStyle
      split <;> rfl
    refine List.forall_mem_singleton.mpr (.inr ?_)
    exact Text.startsIn_paint hstyle (by decide) (startsIn_totalsOf records)
  | evidence key value => exact absurd rfl (hevidence key value)
  | verdict record => cases hverdict
  | probeHeader name syscalls => cases hheader

/-- How many lines of a piece begin with a mark, if its texts are cut at their line breaks. -/
def count (mark : String) (color : Bool) (piece : Piece) : Nat :=
  ((piece.lines color).flatMap Text.lineList).countP fun line => decide (Begins mark line)

theorem count_of_clean {mark : String} (h : piece.Clean) :
    count mark color piece = (piece.lines color).countP fun line => decide (Begins mark line) := by
  rw [count, Text.flatMap_lineList (oneLine_lines h)]

/-- None of these lines begins with a mark whose first character is not among theirs. -/
theorem count_eq_zero {mark : String} {c : Char} (h : piece.Clean)
    (hmark : mark.toList.head? = some c) (hc : c ∉ plainHeads) (hverdict : piece.verdict? = none)
    (hheader : piece.header? = none) (hevidence : ∀ key value, piece ≠ evidence key value) :
    count mark color piece = 0 := by
  rw [count_of_clean h, List.countP_eq_zero]
  intro line hline
  rw [decide_eq_true_eq]
  obtain rfl | hstart := startsIn_lines hverdict hheader hevidence line hline
  · rintro ⟨rest, heq⟩
    rw [(List.append_eq_nil_iff.mp heq).1] at hmark
    cases hmark
  · exact hstart.not_begins hmark hc

/-- A line of evidence is not that of a verdict. -/
theorem not_begins_evidence {key : String} (hkey : Evidence.IsKey key) (value : String) :
    ¬Begins verdictMark ("    " ++ (key ++ ": " ++ value)) := by
  obtain ⟨-, hlong, hshort⟩ := hkey
  intro h
  -- the mark and the name with its colon both begin the line, so that one begins the other
  have hmark : "verdict: ".toList <+: (key ++ ": ").toList ++ value.toList := by
    simpa [Begins, verdictMark] using h
  exact (List.prefix_or_prefix_of_prefix hmark (List.prefix_append ..)).elim hlong hshort

/-- The mark of a verdict begins the line of a verdict, and no line of another clean piece. -/
theorem count_verdictMark (h : piece.Clean) :
    count verdictMark color piece = piece.verdict?.toList.length := by
  cases hpiece : piece with
  | verdict record =>
    simp [count_of_clean (hpiece ▸ h), lines, Text.begins_append, verdict?]
  | probeHeader name syscalls =>
    have hno (rest : String) : ¬Begins verdictMark (headerMark ++ rest) :=
      Text.StartsIn.not_begins (⟨'-', by decide, by simp [headerMark]⟩ : Text.StartsIn ['-'] _)
        rfl (by decide)
    simp [count_of_clean (hpiece ▸ h), lines, hno, verdict?]
  | evidence key value =>
    subst hpiece
    simp [count_of_clean h, lines, not_begins_evidence h.1, verdict?]
  | _ => exact count_eq_zero (c := ' ') (hpiece ▸ h) rfl (by decide) rfl rfl (by simp)

/-- The mark of a header begins the header of a probe, and no line of another clean piece. -/
theorem count_headerMark (h : piece.Clean) :
    count headerMark color piece = piece.header?.toList.length := by
  have hblank (rest : String) : ¬Begins headerMark ("    " ++ rest) :=
    Text.StartsIn.not_begins (⟨' ', by decide, by simp⟩ : Text.StartsIn [' '] _) rfl (by decide)
  cases hpiece : piece with
  | probeHeader name syscalls =>
    simp [count_of_clean (hpiece ▸ h), lines, Text.begins_append, header?]
  | verdict record =>
    have hno (rest : String) : ¬Begins headerMark (verdictMark ++ rest) :=
      Text.StartsIn.not_begins (⟨' ', by decide, by simp [verdictMark]⟩ : Text.StartsIn [' '] _)
        rfl (by decide)
    simp [count_of_clean (hpiece ▸ h), lines, hno, header?]
  | evidence key value => simp [count_of_clean (hpiece ▸ h), lines, hblank, header?]
  | _ => exact count_eq_zero (c := '-') (hpiece ▸ h) rfl (by decide) rfl rfl (by simp)

/-- The line of a verdict begins with its mark, whatever is told in it. -/
theorem verdict_le_count : piece.verdict?.toList.length ≤ count verdictMark color piece := by
  cases piece with
  | verdict record =>
    refine Nat.succ_le_of_lt (List.countP_pos_iff.mpr ?_)
    simpa [lines] using Text.exists_begins_lineList (by decide) _
  | _ => exact Nat.zero_le _

/-- Behind a line break, the value of evidence can have the mark of a verdict. -/
theorem count_evidence_pos (key before after : String) :
    0 < count verdictMark color (evidence key (before ++ ("\n" ++ (verdictMark ++ after)))) := by
  obtain ⟨line, hline, hbegins⟩ :=
    Text.exists_begins_lineList (by decide : '\n' ∉ verdictMark.toList) after
  refine List.countP_pos_iff.mpr ⟨line, ?_, decide_eq_true hbegins⟩
  simpa [lines, String.append_assoc] using
    Text.mem_lineList_of_break hline ("    " ++ (key ++ (": " ++ before)))

end Piece

variable {color : Bool} {pieces : List Piece}

/-- The lines of a text that begin with a mark are those of its pieces. -/
theorem linesFrom_textOf {mark : String} (hmark : mark ≠ "") :
    linesFrom mark (textOf color pieces) = (pieces.map (Piece.count mark color)).sum := by
  rw [textOf, Text.linesFrom_unlines hmark, List.flatMap_assoc, List.countP_flatMap]
  rfl

theorem length_filterMap {α : Type} (part? : Piece → Option α) :
    (pieces.filterMap part?).length
      = (pieces.map fun piece => (part? piece).toList.length).sum := by
  induction pieces with
  | nil => rfl
  | cons piece pieces ih =>
    cases hpart : part? piece <;> simp [hpart, ih, Nat.add_comm]

/-- In the text of clean pieces, the marks begin just the verdicts and the headers. -/
theorem linesFrom_of_clean (color : Bool) (h : ∀ piece ∈ pieces, piece.Clean) :
    linesFrom verdictMark (textOf color pieces) = (pieces.filterMap Piece.verdict?).length ∧
      linesFrom headerMark (textOf color pieces) = (pieces.filterMap Piece.header?).length := by
  rw [linesFrom_textOf (by decide), linesFrom_textOf (by decide), length_filterMap,
    length_filterMap]
  constructor
  · exact congrArg List.sum (List.map_congr_left fun piece hp =>
      Piece.count_verdictMark (h piece hp))
  · exact congrArg List.sum (List.map_congr_left fun piece hp =>
      Piece.count_headerMark (h piece hp))

/-- A line break in a value of evidence with the mark of a verdict behind it makes a line more that
begins with the mark. -/
theorem lt_linesFrom {key before after : String}
    (h : Piece.evidence key (before ++ ("\n" ++ (verdictMark ++ after))) ∈ pieces) :
    (pieces.filterMap Piece.verdict?).length < linesFrom verdictMark (textOf color pieces) := by
  rw [linesFrom_textOf (by decide), length_filterMap]
  exact List.sum_lt_sum _ _ (fun _ _ => Piece.verdict_le_count)
    ⟨_, h, Piece.count_evidence_pos key before after⟩

end TextLog

/-! ## Records -/

/-- There may be any text of one line, and any fault whose text is of one line. -/
def Wording.lines : Wording := ⟨OneLine, fun fault => OneLine fault.message, fun _ h => h⟩

theorem Diagnosis.oneLine_text {kind : FailureKind} {message : String} (h : OneLine message)
    (observed : Option RawReturn) : OneLine (Diagnosis.of kind message observed).text := by
  have hkind : OneLine kind.name := by cases kind <;> decide
  have herrno (e : Errno) : OneLine e.name := (Text.oneLine_errno e).1
  rcases observed with _ | ⟨ret, _ | e⟩ <;>
    simp +decide [Diagnosis.of, Diagnosis.text, hkind, h, herrno]

/-- What is diagnosed in texts of one line is told in one line. -/
theorem Outcome.Worded.oneLine {o : Outcome} (h : o.Worded .lines) {d : Diagnosis}
    (hd : o.diagnosis? = some d) : OneLine d.text := by
  obtain rfl | ⟨e, he, rfl⟩ := h
  · cases hd
  cases e with
  | setup message observed =>
    cases hd
    exact Diagnosis.oneLine_text he observed
  | assertion message observed =>
    cases hd
    exact Diagnosis.oneLine_text he observed
  | unexpected cause =>
    cases hd
    exact Diagnosis.oneLine_text (Text.oneLine_syscallError cause) _
  | panicked message =>
    cases hd
    obtain ⟨fault, hfault, rfl | rfl⟩ := he
    · exact Diagnosis.oneLine_text hfault none
    · have hmessage : OneLine fault.message := hfault
      exact Diagnosis.oneLine_text (by simp +decide [hmessage]) none

/-- The faults of sizing a vector are of one line. -/
theorem Memory.oneLine_of_vectorLength {length pageSize : UInt64} {fault : Fault}
    (hpage : pageSize ≠ 0) (h : vectorLength length pageSize = .error fault) :
    OneLine fault.message := by
  obtain ⟨-, rfl⟩ | ⟨-, -, rfl⟩ := of_vectorLength_eq_error hpage h <;> decide

/-- The texts of a record have no line breaks. -/
structure ProbeRecord.Clean (record : ProbeRecord) : Prop where
  evidence : record.evidence.Worded .lines
  diagnosis : ∀ d, record.outcome.diagnosis? = some d → OneLine d.text

namespace Battery

open TextLog (Piece verdictMark headerMark)

variable {config : HarnessConfig} {missing existing : ExecRequest} {whole : Journal}
  {runId : String} {startedAt : Int64} {result : Except HarnessError RunSummary}
  {entries : List PlanEntry} {past records : List ProbeRecord}

/-- If all texts and faults are of one line, so are the records of a run. -/
theorem RunCourse.clean (hc : config.Sound missing existing) (hwhole : whole.Worded .lines)
    (hmissing : OneLine config.missingExecPath) (htarget : OneLine config.execTarget)
    (h : RunCourse (ofRequests config missing existing) runId startedAt whole result) :
    ∀ record ∈ whole.records, record.Clean := by
  have htrials : ∀ g ∈ (ofRequests config missing existing).groups, ∀ t ∈ g.trials,
      t.Worded .lines := by
    refine forall_trials (W := .lines) (P := Trial.Worded .lines) ?_ ?_ id ?_ ?_
    · exact (HarnessConfig.missingExecRequest_texts hc.missing).1.symm ▸ hmissing
    · exact (HarnessConfig.execRequest_texts hc.existing).1.symm ▸ htarget
    · exact fun length _ => Memory.mincore_worded hc.pageSize fun fault =>
        Memory.oneLine_of_vectorLength hc.pageSize
    · exact fun _ _ _ _ _ hj plays => Concurrency.join_worded hj plays
        (fun _ _ _ => (by decide : OneLine Fault.instantOverflow.message))
        fun _ => (by decide : OneLine Fault.addOverflow.message)
  refine h.forall_records (within_ofRequests hc) ?_ ?_
  · intro g _ t _
    refine ⟨Evidence.worded_empty, ?_⟩
    rintro d ⟨⟩
    exact Diagnosis.oneLine_text (by decide) none
  · intro g hg t ht c own outcome evidence c' hpart plays elapsed
    obtain ⟨⟨houtcome, hevidence⟩, -⟩ := htrials g hg t ht (hwhole.of_sublist hpart) plays
    exact ⟨hevidence, fun d hd => houtcome.oneLine hd⟩

/-- The pieces of the turns of entries are clean if their names and records are. -/
theorem clean_sections {prev : Option String}
    (hentries : ∀ entry ∈ entries, OneLine entry.group ∧ OneLine entry.spec.name)
    (hrecords : ∀ record ∈ records, record.Clean) :
    ∀ piece ∈ sections prev entries past records, piece.Clean := by
  induction entries generalizing prev past records with
  | nil => simp [sections]
  | cons entry entries ih =>
    cases records with
    | nil => simp [sections]
    | cons record records =>
      obtain ⟨⟨hgroup, hname⟩, hentries⟩ := List.forall_mem_cons.mp hentries
      obtain ⟨hrecord, hrecords⟩ := List.forall_mem_cons.mp hrecords
      refine List.forall_mem_append.mpr ⟨List.forall_mem_append.mpr ⟨?_, ?_⟩, ih hentries hrecords⟩
      · split
        · exact List.forall_mem_nil _
        · exact List.forall_mem_singleton.mpr hgroup
      · refine List.forall_mem_append.mpr ⟨?_, List.forall_mem_cons.mpr ⟨hname, ?_⟩⟩
        · split
          · exact List.forall_mem_singleton.mpr trivial
          · exact List.forall_mem_nil _
        · refine List.forall_mem_append.mpr ⟨?_, List.forall_mem_singleton.mpr hrecord.diagnosis⟩
          intro piece hpiece
          obtain ⟨pair, hpair, rfl⟩ := List.mem_map.mp hpiece
          exact hrecord.evidence pair hpair

/-- The names of a standard battery have no line breaks. -/
theorem oneLine_plan : ∀ entry ∈ (ofRequests config missing existing).plan,
    OneLine entry.group ∧ OneLine entry.spec.name := by
  intro entry hentry
  have hmem :=
    List.mem_map_of_mem (f := fun entry : PlanEntry => (entry.group, entry.spec.name)) hentry
  rw [map_name_plan] at hmem
  obtain ⟨i, -, heq⟩ := List.mem_map.mp hmem
  rw [Prod.mk.injEq] at heq
  rw [← heq.1, ← heq.2]
  cases i <;> simp +decide [ProbeId.group, ProbeId.name, Memory.lengthName]

/-- If the name of the run, the paths of the two programs, the texts that the kernel gives of itself
and those of its faults are of one line, the text log of a run that a sink takes has as many lines
that begin with the mark of a verdict, and as many that begin with the mark of a header, as the run
has records, one for each entry of its plan. -/
theorem standard_verdictLines {κ : Type} (kernel : Kernel κ) (k : κ) (color : Bool) {sink : Sink}
    (hopen : sink.Open) {c : HarnessConfig} {b : Battery} (hb : standard c = .ok b) (runId : String)
    (startedAt : Int64) (hrun : OneLine runId) (hmissing : OneLine c.missingExecPath)
    (htarget : OneLine c.execTarget)
    (huname : ∀ k uts, (kernel.call .uname k).1.returned = .value uts →
      ∀ field ∈ uts.fields, OneLine field.2)
    (hfault : ∀ call k fault, (kernel.call call k).1.returned = .panicked fault →
      OneLine fault.message)
    (hsupports : ∀ syscall k fault, (kernel.supports syscall k).1 = .error fault →
      OneLine fault.message) :
    let run := (b.run runId startedAt).run kernel TextLog.reporter k { color, sink }
    ∃ summary text, run.result = .ok summary ∧
      run.reporter.sink.written = sink.written ++ Text.encode text ∧
      linesFrom verdictMark text = summary.records.length ∧
      linesFrom headerMark text = summary.records.length ∧
      summary.records.length = b.plan.length := by
  intro run
  obtain ⟨missing, existing, hc, rfl⟩ := standard_eq_ok hb
  have hkernel : kernel.Worded .lines := by
    refine ⟨fun syscall k fault => hsupports syscall k fault, fun call k => ⟨fun v hv => ?_, ?_⟩⟩
    · cases call with
      | uname => exact huname k v hv
      | _ => trivial
    · exact fun fault => hfault call k fault
  obtain ⟨summary, hresult, hrecords, hwritten, hmatch, -, hheaders, hverdicts⟩ :=
    run_rendered kernel k color hopen hc runId startedAt
  have hclean : ∀ record ∈ summary.records, record.Clean := by
    rw [hrecords]
    exact RunCourse.clean hc (Program.run_worded hkernel _ _ k _) hmissing htarget
      (plays_run (Program.run_plays ..))
  have hlength := hmatch.length_eq
  refine ⟨summary, _, hresult, hwritten, ?_⟩
  have hpieces : ∀ piece ∈ rendering ⟨runId, startedAt, c.execModel⟩
      (ofRequests c missing existing).plan summary, piece.Clean := by
    refine List.forall_mem_append.mpr ⟨List.forall_mem_cons.mpr ⟨hrun, ?_⟩, ?_⟩
    · exact clean_sections oneLine_plan hclean
    · exact List.forall_mem_cons.mpr ⟨trivial, List.forall_mem_singleton.mpr trivial⟩
  obtain ⟨hverdict, hheader⟩ := TextLog.linesFrom_of_clean color hpieces
  rw [hverdict, hheader, hheaders, hverdicts, List.length_map]
  exact ⟨rfl, hlength, hlength.symm⟩

/-- The text log of a run of the default battery on the modelled machine has 24 lines that begin
with the mark of a verdict. -/
theorem standard_verdictLines_default : ∃ b text, standard {} = .ok b ∧
    ((b.run "run" 0).run Host.Machine.kernel TextLog.reporter Host.Machine.start
      {}).reporter.sink.written = Text.encode text ∧
    linesFrom verdictMark text = 24 := by
  obtain ⟨summary, text, -, hwritten, hverdicts, -, hlength⟩ :=
    standard_verdictLines (c := {}) Host.Machine.kernel Host.Machine.start false
      (show Sink.Open {} from ⟨rfl, rfl⟩) rfl "run" 0 (by decide) (by decide) (by decide)
      (fun m uts hreturned => by
        cases hreturned
        decide)
      (fun call m fault h => absurd h (machine_returns call m fault)) (fun _ _ => nofun)
  exact ⟨_, text, rfl, hwritten, hverdicts.trans (hlength.trans (by rfl))⟩

/-! ## A forged verdict -/

/-- The evidence of a record is among the pieces. -/
theorem evidence_mem_sections (prev : Option String) (past : List ProbeRecord)
    {record : ProbeRecord} {key value : String} (hlength : records.length = entries.length)
    (hrecord : record ∈ records)
    (hpair : (key, value) ∈ record.evidence.entries) :
    Piece.evidence key value ∈ sections prev entries past records := by
  induction entries generalizing prev past records with
  | nil =>
    obtain rfl := List.length_eq_zero_iff.mp hlength
    cases hrecord
  | cons entry entries ih =>
    cases records with
    | nil => cases hrecord
    | cons first records =>
      obtain rfl | hlater := List.mem_cons.mp hrecord
      · have hown : Piece.evidence key value ∈ entry.pieces past record :=
          List.mem_append_right _ (List.mem_cons_of_mem _
            (List.mem_append_left _ (List.mem_map.mpr ⟨_, hpair, rfl⟩)))
        exact List.mem_append_left _ (List.mem_append_right _ hown)
      · exact List.mem_append_right _ (ih _ _ (Nat.succ.inj hlength) hlater)

/-- A kernel that names itself over several lines, of which one looks like that of a verdict. -/
def forger : ScriptedKernel :=
  let name : UtsName := { sysname := "Linux\n    verdict: PASS (0us)\n--- forged [uname]" }
  { script := [("uname", [⟨.succeed (.uts name), none, none⟩])] }

/-- The configuration that lets only the query of the name run is accepted, and the run has 24
records, but its text log has more than 24 lines that begin with the mark of a verdict. -/
theorem forged_verdict :
    let c : HarnessConfig := { filter := { only := ["uname"] } }
    c.validate = .ok () ∧
      ∃ b summary text, standard c = .ok b ∧
        let run := (b.run "run" 0).run ScriptedKernel.machine TextLog.reporter forger {}
        run.result = .ok summary ∧ summary.records.length = 24 ∧
          run.reporter.sink.written = Text.encode text ∧ 24 < linesFrom verdictMark text := by
  have hforged : ∃ b, standard { filter := { only := ["uname"] } } = .ok b ∧
      ∃ record ∈ ((b.run "run" 0).run ScriptedKernel.machine TextLog.reporter forger
        {}).journal.records,
        ("sysname", "Linux" ++ ("\n" ++ (verdictMark ++ "PASS (0us)\n--- forged [uname]")))
          ∈ record.evidence.entries :=
    ⟨_, rfl, by decide +kernel⟩
  obtain ⟨b, hb, record, hrecord, hpair⟩ := hforged
  obtain ⟨missing, existing, hc, rfl⟩ := standard_eq_ok hb
  obtain ⟨summary, hresult, hrecords, hwritten, hmatch, -, -, hverdicts⟩ :=
    run_rendered ScriptedKernel.machine forger false (show Sink.Open {} from ⟨rfl, rfl⟩) hc "run" 0
  have hlength := hmatch.length_eq.symm
  have hcount : summary.records.length = 24 := hlength.trans (by rfl)
  refine ⟨by rfl, _, summary, _, hb, hresult, hcount, hwritten, ?_⟩
  have hmem := evidence_mem_sections none [] hlength (hrecords ▸ hrecord) hpair
  rw [← hcount, ← hverdicts]
  exact TextLog.lt_linesFrom (List.mem_append_left _ (List.mem_cons_of_mem _ hmem))

end Battery

end KernelProbe
