import KernelProbe.Report.AuditLog
import KernelProbe.Proofs.Json.Printer
import KernelProbe.Proofs.Text.Utf8

/-!
# Sinks that fill up

`Sink.upTo n s` is the sink `s` with room for `n` bytes in all. Writing to it does what writing to
`s` does, up to that room: `write_upTo`. `Reporter.Fills` lifts this to reporters. As long as the
bytes so far fit, such a reporter goes through the same states as with a sink without bound, cut off
at `n` bytes; it refuses an event when the bytes exceed the room, and the first byte that does not
fit tells with which error. Both logs do so. In the JSON lines the byte is a line break if and only
if the object before it was written as a whole, because no object has one (`JsonLines.fills`).
-/

namespace KernelProbe

namespace Sink

/-- Everything fits, and gets out. -/
def Open (s : Sink) : Prop := s.room = none ∧ s.flushFails = false

/-- The sink after more bytes. -/
def extend (bytes : List UInt8) (s : Sink) : Sink := { s with written := s.written ++ bytes }

/-- The sink with room for `n` bytes in all, those that were written included. -/
def upTo (n : Nat) (s : Sink) : Sink :=
  { s with room := some (n - s.written.length), written := s.written.take n }

/-- The answer of a reporter when there is no room for a byte, or room for all. -/
def verdict (refusal : UInt8 → HarnessError) : Option UInt8 → Except HarnessError Unit
  | none => .ok ()
  | some b => .error (refusal b)

variable {s : Sink} {n : Nat} {bytes more : List UInt8} {text value : String}

@[simp] theorem written_extend : (s.extend bytes).written = s.written ++ bytes := rfl

@[simp] theorem written_upTo : (s.upTo n).written = s.written.take n := rfl

@[simp] theorem upTo_empty : ({} : Sink).upTo n = { room := some n } := by simp [upTo]

@[simp] theorem extend_nil : s.extend [] = s := by simp [extend]

@[simp] theorem extend_extend : (s.extend bytes).extend more = s.extend (bytes ++ more) := by
  simp [extend]

theorem Open.extend (h : s.Open) (bytes : List UInt8) : (s.extend bytes).Open := h

/-! ## Without bound -/

theorem Open.write (h : s.Open) (bytes : List UInt8) : s.write bytes = (true, s.extend bytes) := by
  simp [Sink.write, Sink.extend, h.1]

theorem Open.writeText (h : s.Open) (text : String) :
    s.writeText text = (.ok (), s.extend (Text.encode text)) := by
  rw [Sink.writeText, h.write]
  simp [Sink.flush, (h.extend _).2]

theorem Open.writeLine (h : s.Open) (value : String) :
    s.writeLine value = (.ok (), s.extend (Text.encode value ++ [10])) := by
  rw [Sink.writeLine, h.write]
  exact ((h.extend _).writeText "\n").trans (by rw [extend_extend]; rfl)

/-! ## With room for some bytes -/

/-- As long as all bytes fitted, more are written as far as they fit. -/
theorem write_upTo (hfits : s.written.length ≤ n) (bytes : List UInt8) :
    (s.upTo n).write bytes
      = (decide ((s.extend bytes).written.length ≤ n), (s.extend bytes).upTo n) := by
  have hroom : bytes.length ≤ n - s.written.length ↔ (s.written ++ bytes).length ≤ n := by
    rw [List.length_append]
    omega
  simp only [write, upTo, extend, hroom, List.length_append, List.take_append,
    List.take_of_length_le hfits, Nat.sub_sub]

/-- What lies beyond the room has no effect. -/
theorem upTo_extend_of_lt (hfull : n < s.written.length) : (s.extend bytes).upTo n = s.upTo n := by
  have hroom : n - (s.written ++ bytes).length = n - s.written.length := by
    rw [List.length_append]
    omega
  simp only [upTo, extend, hroom, List.take_append_of_le_length (Nat.le_of_lt hfull)]

theorem writeText_upTo (hopen : s.Open) (hfits : s.written.length ≤ n) (text : String) :
    (s.upTo n).writeText text
      = (verdict (fun _ => .output closed) (s.extend (Text.encode text)).written[n]?,
          (s.extend (Text.encode text)).upTo n) := by
  rw [writeText, write_upTo hfits]
  by_cases hroom : (s.extend (Text.encode text)).written.length ≤ n
  · rw [List.getElem?_eq_none hroom, decide_eq_true hroom]
    simp [verdict, flush, upTo, extend, hopen.2]
  · rw [List.getElem?_eq_getElem (Nat.lt_of_not_le hroom), decide_eq_false hroom]
    rfl

/-- Which error a full sink makes within a line: a line break that does not fit is missed when it is
written, any other byte while the value is serialized. -/
def lineRefusal (b : UInt8) : HarnessError :=
  if b = 10 then .output closed else .serialization closed

/-- A line breaks off where the room ends. -/
theorem writeLine_upTo (hopen : s.Open) (hfits : s.written.length ≤ n)
    (hvalue : 10 ∉ Text.encode value) :
    (s.upTo n).writeLine value
      = (verdict lineRefusal (s.extend (Text.encode value ++ [10])).written[n]?,
          (s.extend (Text.encode value ++ [10])).upTo n) := by
  rw [writeLine, write_upTo hfits, ← extend_extend]
  by_cases hroom : (s.extend (Text.encode value)).written.length ≤ n
  · -- the value fits, so that only its line break may be missing
    rw [decide_eq_true hroom]
    refine (writeText_upTo (hopen.extend _) hroom "\n").trans ?_
    have hbreak : Text.encode "\n" = [10] := rfl
    rw [hbreak]
    congr 1
    rcases Nat.eq_or_lt_of_le hroom with heq | hlt
    · have hlast : ((s.extend (Text.encode value)).extend [10]).written[n]? = some 10 := by
        rw [written_extend, ← heq]
        simp
      rw [hlast]
      rfl
    · have hnone : ((s.extend (Text.encode value)).extend [10]).written[n]? = none := by
        rw [List.getElem?_eq_none_iff, written_extend, List.length_append]
        exact hlt
      rw [hnone]
      rfl
  · -- the first byte that does not fit is one of the value
    rw [decide_eq_false hroom]
    obtain ⟨b, hb, hmem⟩ : ∃ b, (s.written ++ Text.encode value)[n]? = some b ∧
        b ∈ Text.encode value := by
      have hlt : n < (s.written ++ Text.encode value).length := Nat.lt_of_not_le hroom
      refine ⟨_, List.getElem?_eq_getElem hlt, ?_⟩
      rw [List.getElem_append_right hfits]
      exact List.getElem_mem _
    have hbyte : ((s.extend (Text.encode value)).extend [10]).written[n]? = some b := by
      rw [written_extend, List.getElem?_append_left (Nat.lt_of_not_le hroom), written_extend, hb]
    have hne : b ≠ 10 := fun h => hvalue (h ▸ hmem)
    rw [hbyte, upTo_extend_of_lt (Nat.lt_of_not_le hroom)]
    simp [verdict, lineRefusal, hne]

end Sink

/-! ## Reporters -/

/-- With room for `n` bytes, a reporter goes through the states that it has without bound, cut off
at `n` bytes, until the bytes exceed the room; `refusal` tells the error for the first byte that
does not fit. -/
structure Reporter.Fills {ρ : Type} (reporter : Reporter ρ) (sink : ρ → Sink) (upTo : Nat → ρ → ρ)
    (refusal : UInt8 → HarnessError) : Prop where
  sink_upTo : ∀ n r, sink (upTo n r) = (sink r).upTo n
  takes : ∀ event r, (sink r).Open → (reporter.receive event r).1 = .ok ()
  grows : ∀ event r, (sink r).Open →
    ∃ bytes, sink (reporter.receive event r).2 = (sink r).extend bytes
  limited : ∀ event r n, (sink r).Open → (sink r).written.length ≤ n →
    reporter.receive event (upTo n r)
      = (Sink.verdict refusal (sink (reporter.receive event r).2).written[n]?,
          upTo n (reporter.receive event r).2)

namespace TextLog

/-- The log with room for `n` bytes in all. -/
def upTo (n : Nat) (log : TextLog) : TextLog := { log with sink := log.sink.upTo n }

theorem upTo_empty (n : Nat) (color : Bool) :
    upTo n { color } = { color, sink := { room := some n } } := by
  simp [upTo]

/-- The text log refuses the event whose text does not fit, as an error of the output. -/
theorem fills : reporter.Fills sink upTo fun _ => .output Sink.closed where
  sink_upTo _ _ := rfl
  takes _ _ hopen := congrArg Prod.fst (hopen.writeText _)
  grows _ _ hopen := ⟨_, congrArg Prod.snd (hopen.writeText _)⟩
  limited event log n hopen hfits := by
    simp only [reporter, upTo, hopen.writeText, Sink.writeText_upTo hopen hfits]

end TextLog

namespace JsonLines

/-- No line of the log has a line break of its own. -/
theorem newline_not_mem_line (line : Json) : 10 ∉ Text.encode line.render := by
  intro h
  have hle := Text.le_of_mem_encode (fun c hc => Json.le_of_mem_render hc) h
  exact absurd hle (by decide)

/-- The JSON lines log refuses the event whose line does not fit: as an error of the output if only
the line break is missing, else of the serialization. -/
theorem fills : reporter.Fills id Sink.upTo Sink.lineRefusal where
  sink_upTo _ _ := rfl
  takes := by
    intro event sink (hopen : sink.Open)
    cases hline : line? event with
    | none => simp only [reporter, hline]
    | some line => simp only [reporter, hline, hopen.writeLine]
  grows := by
    intro event sink (hopen : sink.Open)
    cases hline : line? event with
    | none => exact ⟨[], by simp only [reporter, hline, Sink.extend_nil, id_eq]⟩
    | some line => exact ⟨_, by simp only [reporter, hline, hopen.writeLine]; rfl⟩
  limited := by
    intro event sink n (hopen : sink.Open) (hfits : sink.written.length ≤ n)
    cases hline : line? event with
    | none =>
      have hnone : sink.written[n]? = none := List.getElem?_eq_none hfits
      simp only [reporter, hline, id_eq, hnone, Sink.verdict]
    | some line =>
      simp only [reporter, hline, id_eq, hopen.writeLine,
        Sink.writeLine_upTo hopen hfits (newline_not_mem_line line)]

end JsonLines

end KernelProbe
