import KernelProbe.Program.Execution
import KernelProbe.Proofs.Report.Filling
import KernelProbe.Proofs.Text.Lines

/-!
# The pieces of a text log

The text log remembers the probe whose header it wrote last, and decides from it whether a record
still needs a header. `TextLog.Piece` names what the log is made of, and `Piece.lines` spells out
the lines of each piece; totals are counted afresh from the records. `Writes color current events
pieces current'` says that a log which remembers `current` writes these pieces for the events and
then remembers `current'`. There is one such fact for each event, and for a record two: with the
header of its probe in front, or without it if the header was the last one. A run against an open
sink writes what its report events come to (`run_reporter`).
-/

namespace KernelProbe

/-- The counts of a summary are those of the verdicts in its records. -/
structure RunSummary.Counted (s : RunSummary) : Prop where
  passed : s.passed = s.records.countP (·.outcome.isPass)
  failed : s.failed = s.records.countP (·.outcome.isFail)
  skipped : s.skipped = s.records.countP (·.outcome.isSkipped)

namespace TextLog

/-! ## Pieces -/

/-- What a text log is made of. -/
inductive Piece where
  /-- The line that the run begins with. -/
  | runLine (info : RunInfo)
  /-- The lines that a group begins with. -/
  | groupHeader (group : String)
  /-- The line of a checkpoint behind some records. -/
  | checkpoint (records : List ProbeRecord)
  /-- The line that a probe begins with. -/
  | probeHeader (name : String) (syscalls : List Syscall)
  /-- A line of evidence. -/
  | evidence (key value : String)
  /-- The line of a verdict. -/
  | verdict (record : ProbeRecord)
  /-- The final table, with a row for each record. -/
  | table (records : List ProbeRecord)
  /-- The totals below the table. -/
  | totals (records : List ProbeRecord)
deriving DecidableEq, Repr

/-- What the line of a verdict begins with. -/
def verdictMark : String := "    verdict: "

/-- What the header of a probe begins with. -/
def headerMark : String := "--- "

namespace Piece

/-- The word for a verdict, in its style. -/
def word (color : Bool) : Outcome → String
  | .pass => Text.Style.greenBold.paint color "PASS"
  | .fail _ => Text.Style.redBold.paint color "FAIL"
  | .skipped _ => Text.Style.yellowBold.paint color "SKIPPED"

/-- The row of a record in the table. -/
def row (record : ProbeRecord) : List String :=
  match record.outcome with
  | .pass => [record.group, record.probe, "PASS", ""]
  | .fail d => [record.group, record.probe, "FAIL", d.text]
  | .skipped d => [record.group, record.probe, "SKIPPED", d.text]

/-- The table of some records: a row for each. -/
def tableOf (records : List ProbeRecord) : Text.Table :=
  ⟨["group", "probe", "verdict", "detail"], records.map row⟩

/-- How many of some records have which verdict. -/
def totalsOf (records : List ProbeRecord) : String :=
  Text.decimal (records.countP (·.outcome.isPass)) ++ " passed, "
    ++ Text.decimal (records.countP (·.outcome.isFail)) ++ " failed, "
    ++ Text.decimal (records.countP (·.outcome.isSkipped)) ++ " skipped ("
    ++ Text.decimal records.length ++ " probes)"

/-- The style of the totals: red if some record failed, green if none did. -/
def totalsStyle (records : List ProbeRecord) : Text.Style :=
  if records.any (·.outcome.isFail) then .redBold else .greenBold

/-- The lines of a piece. -/
def lines (color : Bool) : Piece → List String
  | runLine info =>
    [Text.Style.bold.paint color "sysprobe" ++ (" run " ++ info.runId ++ " at "
      ++ Timestamp.text info.startedAt.toInt ++ " (exec model: " ++ info.execModel.name ++ ")")]
  | groupHeader group => ["", Text.Style.cyanBold.paint color ("=== " ++ group ++ " ===")]
  | checkpoint records =>
    [Text.Style.yellowBold.paint color "checkpoint:" ++ (" " ++ totalsOf records)]
  | probeHeader name syscalls =>
    [headerMark ++ (Text.Style.bold.paint color name ++ " ["
      ++ ", ".intercalate (syscalls.map Syscall.name) ++ "]")]
  | evidence key value => ["    " ++ (key ++ ": " ++ value)]
  | verdict record =>
    [verdictMark ++ (word color record.outcome
      ++ record.outcome.diagnosis?.elim "" (" " ++ ·.text)
      ++ " (" ++ Text.decimal record.elapsedMicros.toNat ++ "us)")]
  | table records => "" :: (tableOf records).lines.map String.ofList
  | totals records => [(totalsStyle records).paint color (totalsOf records)]

/-- The name and the calls of a probe, if the piece is its header. -/
def header? : Piece → Option (String × List Syscall)
  | probeHeader name syscalls => some (name, syscalls)
  | _ => none

/-- The record, if the piece is its verdict. -/
def verdict? : Piece → Option ProbeRecord
  | verdict record => some record
  | _ => none

/-- The group, if the piece is its header. -/
def group? : Piece → Option String
  | groupHeader group => some group
  | _ => none

/-- The pieces of a record's evidence. -/
def ofEvidence (e : Evidence) : List Piece := e.entries.map fun (key, value) => evidence key value

theorem filterMap_ofEvidence {α : Type} {part? : Piece → Option α}
    (h : ∀ key value, part? (evidence key value) = none) (e : Evidence) :
    (ofEvidence e).filterMap part? = [] := by
  rw [List.filterMap_eq_nil_iff]
  intro piece hpiece
  obtain ⟨⟨key, value⟩, -, rfl⟩ := List.mem_map.mp hpiece
  exact h key value

end Piece

/-- The text of some pieces: their lines one after another. -/
def textOf (color : Bool) (pieces : List Piece) : String :=
  Text.unlines (pieces.flatMap (Piece.lines color))

variable {color : Bool} {current current' current'' : Option String}
  {events more : List ReportEvent} {pieces rest : List Piece}

@[simp] theorem textOf_nil : textOf color [] = "" := rfl

@[simp] theorem textOf_cons (piece : Piece) :
    textOf color (piece :: pieces) = Text.unlines (piece.lines color) ++ textOf color pieces := by
  rw [textOf, List.flatMap_cons, Text.unlines_append]
  rfl

@[simp] theorem textOf_append :
    textOf color (pieces ++ rest) = textOf color pieces ++ textOf color rest := by
  rw [textOf, List.flatMap_append, Text.unlines_append]
  rfl

/-! ## The lines of the log

What the log writes for each kind of event is put together from the lines of a piece. -/

theorem runLine_eq (info : RunInfo) :
    runLine color info = Text.unlines (Piece.lines color (.runLine info)) := by
  simp [runLine, Piece.lines, String.append_assoc]

theorem groupHeader_eq (group : String) :
    groupHeader color group = Text.unlines (Piece.lines color (.groupHeader group)) := by
  simp [groupHeader, Piece.lines, String.append_assoc]

theorem probeHeader_eq (name : String) (syscalls : List Syscall) : probeHeader color name syscalls
    = Text.unlines (Piece.lines color (.probeHeader name syscalls)) := by
  simp [probeHeader, Piece.lines, headerMark, syscallList, Text.join, String.append_assoc]

theorem verdictLine_eq (record : ProbeRecord) :
    verdictLine color record = Text.unlines (Piece.lines color (.verdict record)) := by
  unfold verdictLine
  cases houtcome : record.outcome <;>
    simp [Piece.lines, Piece.word, verdictMark, verdictStyle, Outcome.verdict, Outcome.diagnosis?,
      houtcome, String.append_assoc]

@[simp] theorem textOf_ofEvidence (e : Evidence) :
    textOf color (Piece.ofEvidence e) = evidenceLines e := by
  have hlines : (Piece.ofEvidence e).flatMap (Piece.lines color)
      = e.entries.map fun (key, value) => "    " ++ (key ++ ": " ++ value) := by
    rw [Piece.ofEvidence, List.flatMap_map, List.map_eq_flatMap]
    rfl
  rw [textOf, hlines, Text.unlines, List.map_map]
  simp [evidenceLines, Function.comp_def, String.append_assoc]

theorem totals_eq {s : RunSummary} (h : s.Counted) : totals s = Piece.totalsOf s.records := by
  rw [totals, Piece.totalsOf, h.passed, h.failed, h.skipped]

theorem checkpointLine_eq {s : RunSummary} (h : s.Counted) :
    checkpointLine color s = Text.unlines (Piece.lines color (.checkpoint s.records)) := by
  simp [checkpointLine, Piece.lines, totals_eq h, String.append_assoc]

theorem summaryTable_eq (s : RunSummary) : summaryTable s = Piece.tableOf s.records := by
  have hrow (r : ProbeRecord) : summaryRow r = Piece.row r := by
    unfold summaryRow Piece.row
    cases r.outcome <;> rfl
  rw [summaryTable, Piece.tableOf, funext hrow]

/-- The run ends in red if some record failed. -/
theorem hasFailures_eq {s : RunSummary} (h : s.Counted) :
    s.hasFailures = s.records.any (·.outcome.isFail) := by
  rw [RunSummary.hasFailures, h.failed, Bool.eq_iff_iff, decide_eq_true_iff, List.countP_pos_iff,
    List.any_eq_true]

theorem ending_eq {s : RunSummary} (h : s.Counted) :
    ending color s = textOf color [.table s.records, .totals s.records] := by
  simp only [ending, summaryTable_eq, hasFailures_eq h, totals_eq h]
  simp [Piece.lines, Piece.totalsStyle, ← Text.render_eq_unlines, String.append_assoc]

/-! ## What events come to -/

/-- What the log writes for events one after another, and the probe whose header then was written
last. -/
def writeAll (color : Bool) : Option String → List ReportEvent → String × Option String
  | current, [] => ("", current)
  | current, event :: events =>
    let (text, current) := write color current event
    let (rest, current) := writeAll color current events
    (text ++ rest, current)

theorem writeAll_append : writeAll color current (events ++ more)
    = ((writeAll color current events).1
        ++ (writeAll color (writeAll color current events).2 more).1,
      (writeAll color (writeAll color current events).2 more).2) := by
  induction events generalizing current with
  | nil => simp [writeAll]
  | cons event events ih => simp [writeAll, ih, String.append_assoc]

/-- A log that remembers `current` writes the pieces for the events, and then remembers
`current'`. -/
def Writes (color : Bool) (current : Option String) (events : List ReportEvent)
    (pieces : List Piece) (current' : Option String) : Prop :=
  writeAll color current events = (textOf color pieces, current')

theorem writes_nil : Writes color current [] [] current := rfl

theorem Writes.append (h : Writes color current events pieces current')
    (hmore : Writes color current' more rest current'') :
    Writes color current (events ++ more) (pieces ++ rest) current'' := by
  rw [Writes, writeAll_append, h, hmore, textOf_append]

/-- One event comes to the pieces that its text is made of. -/
theorem writes_event {event : ReportEvent}
    (h : write color current event = (textOf color pieces, current')) :
    Writes color current [event] pieces current' := by
  simp only [Writes, writeAll, h, String.append_empty]

theorem writes_beginRun (info : RunInfo) :
    Writes color current [.beginRun info] [.runLine info] current :=
  writes_event (by simp [write, runLine_eq])

theorem writes_beginGroup (group : String) :
    Writes color current [.beginGroup group] [.groupHeader group] current :=
  writes_event (by simp [write, groupHeader_eq])

theorem writes_checkpoint {s : RunSummary} (h : s.Counted) :
    Writes color current [.checkpoint s] [.checkpoint s.records] current :=
  writes_event (by simp [write, checkpointLine_eq h])

theorem writes_beginProbe (group : String) (spec : ProbeSpec) :
    Writes color current [.beginProbe group spec] [.probeHeader spec.name spec.syscalls]
      (some spec.name) :=
  writes_event (by simp [write, probeHeader_eq])

/-- The record of the probe whose header was written last has no header in front. -/
theorem writes_record_of_eq {r : ProbeRecord} (h : current = some r.probe) :
    Writes color current [.record r] (Piece.ofEvidence r.evidence ++ [.verdict r]) current :=
  writes_event (by simp [write, verdictLine_eq, h])

/-- The record of any other probe has the probe's header in front. -/
theorem writes_record_of_ne {r : ProbeRecord} (h : current ≠ some r.probe) :
    Writes color current [.record r]
      (.probeHeader r.probe r.syscalls :: Piece.ofEvidence r.evidence ++ [.verdict r])
      (some r.probe) :=
  writes_event (by simp [write, probeHeader_eq, verdictLine_eq, h])

/-- A summary whose counts are those of its records ends in their table and their totals. -/
theorem writes_finish {s : RunSummary} (h : s.Counted) :
    Writes color current [.finish s] [.table s.records, .totals s.records] current :=
  writes_event (by rw [write, ending_eq h])

/-! ## Runs -/

theorem encode_append (s t : String) : Text.encode (s ++ t) = Text.encode s ++ Text.encode t := by
  simp [Text.encode]

/-- The log after events that an open sink takes. -/
def after (events : List ReportEvent) (log : TextLog) : TextLog :=
  let (text, current) := writeAll log.color log.current events
  { log with sink := log.sink.extend (Text.encode text), current }

theorem after_nil (log : TextLog) : log.after [] = log := by
  simp [after, writeAll, Text.encode]

theorem after_cons {log : TextLog} (hopen : log.sink.Open) (event : ReportEvent) :
    log.after (event :: events) = (reporter.receive event log).2.after events := by
  simp only [after, writeAll, reporter, hopen.writeText, Sink.extend_extend, encode_append]

/-- Against an open sink, a run leaves the log that its report events come to. -/
theorem run_reporter {α κ : Type} (kernel : Kernel κ) (p : Program α) (k : κ) {log : TextLog}
    (hopen : log.sink.Open) :
    (p.run kernel reporter k log).reporter
      = log.after (p.run kernel reporter k log).journal.reports := by
  induction p generalizing k log with
  | pure a => exact (after_nil log).symm
  | ask q next ih =>
    cases q with
    | report event =>
      obtain ⟨bytes, hbytes⟩ := fills.grows event log hopen
      have hnext : (reporter.receive event log).2.sink.Open := hbytes ▸ hopen.extend bytes
      refine (ih _ k hnext).trans ?_
      exact (after_cons hopen event).symm
    | _ => exact ih _ _ hopen

/-- The bytes of a run whose events come to some pieces. -/
theorem written_of_writes {α κ : Type} {kernel : Kernel κ} {p : Program α} {k : κ} {log : TextLog}
    (hopen : log.sink.Open)
    (h : Writes log.color log.current (p.run kernel reporter k log).journal.reports pieces
      current) :
    (p.run kernel reporter k log).reporter.sink.written
      = log.sink.written ++ Text.encode (textOf log.color pieces) := by
  rw [run_reporter kernel p k hopen, after, h]
  rfl

end TextLog

end KernelProbe
