import KernelProbe.CommandLine.Console
import KernelProbe.Proofs.Codec.Record
import KernelProbe.Proofs.Report.Filling
import Mathlib.Data.List.Forall2

/-!
# Lines of the JSON lines log

Whoever reads the log splits it at its line breaks. `JsonLines.Framed` says what a line then holds,
whatever texts the event carries: no control character, one object, in it one field `type` with the
name of the event, and, if the event is a record, the record. `JsonLines.receiveAll_framed` says
that an open sink gets such lines and nothing else, and `JsonLines.logWith_framed` that this is so
for a standard stream that no call writes to.
-/

namespace KernelProbe

/-- The answers to events that a reporter is told one after another, and its state after them. -/
def Reporter.receiveAll {ρ : Type} (reporter : Reporter ρ) :
    List ReportEvent → ρ → List (Except HarnessError Unit) × ρ
  | [], state => ([], state)
  | event :: events, state =>
    let (answer, state) := reporter.receive event state
    let (answers, state) := reporter.receiveAll events state
    (answer :: answers, state)

namespace JsonLines

/-- The name that the line of an event gives it; the begin of a group has no line. -/
def type? : ReportEvent → Option String
  | .beginRun _ => some "run"
  | .beginGroup _ => none
  | .beginProbe .. => some "probe"
  | .record _ => some "record"
  | .checkpoint _ => some "checkpoint"
  | .finish _ => some "summary"

/-- What can be relied on about the line of an event. -/
structure Framed (event : ReportEvent) (line : String) : Prop where
  printable : ∀ c ∈ line.toList, 0x20 ≤ c.toNat
  bytes : ∀ b ∈ Text.encode line, 0x20 ≤ b
  parses : ∃ fields type, Json.parse? line = some (.object fields) ∧ type? event = some type ∧
    fields.filter (·.1 == "type") = [("type", .string type)] ∧
    ∀ r, event = .record r → ProbeRecord.ofJson? 0 (.object fields) = some r

/-- The bytes are the lines of the events, one for each event that has one, in their order, and each
with a line break behind it. -/
def Frames (events : List ReportEvent) (bytes : List UInt8) : Prop :=
  ∃ lines : List String, List.Forall₂ Framed (events.filter fun e => (type? e).isSome) lines ∧
    bytes = lines.flatMap fun line => Text.encode line ++ [10]

variable {event : ReportEvent} {events : List ReportEvent} {line : Json} {bytes more : List UInt8}
  {sink : Sink}

/-! ### Lines -/

theorem type?_eq_none (h : line? event = none) : type? event = none := by
  cases event <;> simp_all [line?, type?]

/-- The line of an event gives its name in a field of its own. -/
theorem line?_eq_object (h : line? event = some line) :
    ∃ type fields, line = .object (("type", .string type) :: fields) ∧ type? event = some type ∧
      "type" ∉ fields.map (·.1) ∧ ∀ r, event = .record r → fields = r.fields := by
  cases event with
  | beginGroup => cases h
  | _ =>
    cases h
    exact ⟨_, _, rfl, rfl, by simp [ProbeRecord.fields], by simp⟩

/-- The line of an event can be relied on. -/
theorem framed (h : line? event = some line) : Framed event line.render := by
  obtain ⟨type, fields, rfl, htype, hnames, hrecord⟩ := line?_eq_object h
  refine ⟨fun c hc => Json.le_of_mem_render hc,
    fun b hb => Text.le_of_mem_encode (fun c hc => Json.le_of_mem_render hc) hb,
    ("type", .string type) :: fields.map fun field => (field.1, field.2.reread), type, ?_, htype,
    ?_, ?_⟩
  · rw [Json.parse?_render, Json.reread_object, List.map_cons, Json.reread_string]
  · have hothers : ∀ field ∈ fields.map fun field => (field.1, field.2.reread),
        ¬field.1 == "type" := by
      intro field hfield htype
      obtain ⟨field', hmem, rfl⟩ := List.mem_map.mp hfield
      exact hnames (List.mem_map.mpr ⟨field', hmem, eq_of_beq htype⟩)
    rw [List.filter_cons_of_pos (by rfl), List.filter_eq_nil_iff.mpr hothers]
  · rintro r rfl
    rw [hrecord r rfl] at hnames ⊢
    rw [r.reread_fields]
    exact r.ofJson?_cons hnames _

/-! ### Logs -/

theorem frames_nil : Frames [] [] := ⟨[], .nil, rfl⟩

theorem Frames.cons_of_none (hevent : line? event = none) (h : Frames events bytes) :
    Frames (event :: events) bytes := by
  obtain ⟨lines, hlines, hbytes⟩ := h
  exact ⟨lines, by simpa [type?_eq_none hevent] using hlines, hbytes⟩

theorem Frames.cons_of_some (hevent : line? event = some line) (h : Frames events bytes) :
    Frames (event :: events) (Text.encode line.render ++ [10] ++ bytes) := by
  obtain ⟨lines, hlines, rfl⟩ := h
  obtain ⟨type, _, -, htype, -⟩ := line?_eq_object hevent
  exact ⟨line.render :: lines, by simpa [htype] using ⟨framed hevent, hlines⟩, rfl⟩

/-- An open sink takes an event, and what it gets for it is the line of the event. -/
theorem receive_framed (h : sink.Open) (event : ReportEvent) :
    ∃ bytes, reporter.receive event sink = (.ok (), sink.extend bytes) ∧
      ∀ events more, Frames events more → Frames (event :: events) (bytes ++ more) := by
  cases hline : line? event with
  | none =>
    refine ⟨[], ?_, fun events more hmore => hmore.cons_of_none hline⟩
    simp only [reporter, hline, Sink.extend_nil]
  | some line =>
    refine ⟨Text.encode line.render ++ [10], ?_, fun events more hmore => hmore.cons_of_some hline⟩
    simp only [reporter, hline, h.writeLine]

/-- An open sink takes all events and gets their lines. -/
theorem receiveAll_framed (h : sink.Open) (events : List ReportEvent) :
    ∃ bytes, reporter.receiveAll events sink =
      (events.map fun _ => .ok (), sink.extend bytes) ∧ Frames events bytes := by
  induction events generalizing sink with
  | nil => exact ⟨[], by rw [Sink.extend_nil]; rfl, frames_nil⟩
  | cons event events ih =>
    obtain ⟨bytes, hreceive, hframes⟩ := receive_framed h event
    obtain ⟨more, hrest, hmore⟩ := ih (h.extend bytes)
    refine ⟨bytes ++ more, ?_, hframes _ _ hmore⟩
    simp only [Reporter.receiveAll, hreceive, hrest, Sink.extend_extend, List.map_cons]

/-- If no call of a run writes to the stream of the log, the stream holds the lines of the events
and nothing else. -/
theorem logWith_framed {fd : Int32} {j : Journal} (h : sink.Open)
    (hapart : ∀ e ∈ j, e.writtenTo fd = []) :
    ∃ bytes, j.logWith fd (.lines sink) = .lines (sink.extend bytes) ∧ Frames j.reports bytes := by
  induction j generalizing sink with
  | nil => exact ⟨[], by rw [Sink.extend_nil]; rfl, frames_nil⟩
  | cons e j ih =>
    obtain ⟨hfront, hrest⟩ := List.forall_mem_cons.mp hapart
    cases hevent : e.report? with
    | none =>
      have hsame : (AuditLog.lines sink).append (e.writtenTo fd) = .lines sink := by
        rw [hfront, AuditLog.append, h.write, Sink.extend_nil]
      obtain ⟨bytes, hlog, hframes⟩ := ih h hrest
      refine ⟨bytes, ?_, ?_⟩
      · rw [← hlog, ← hsame]
        simp only [Journal.logWith, List.foldl_cons, hevent, hsame]
      · rwa [Journal.reports, List.filterMap_cons_none hevent]
    | some event =>
      obtain ⟨bytes, hreceive, hframed⟩ := receive_framed h event
      have htaken : (AuditLog.reporter.receive event (.lines sink)).2
          = .lines (sink.extend bytes) := by
        simp only [AuditLog.reporter, hreceive]
      obtain ⟨more, hlog, hframes⟩ := ih (h.extend bytes) hrest
      refine ⟨bytes ++ more, ?_, ?_⟩
      · rw [← Sink.extend_extend, ← hlog, ← htaken]
        simp only [Journal.logWith, List.foldl_cons, hevent]
      · rw [Journal.reports, List.filterMap_cons_some hevent]
        exact hframed _ _ hframes

end JsonLines

end KernelProbe
