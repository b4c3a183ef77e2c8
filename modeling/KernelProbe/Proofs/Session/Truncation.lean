import KernelProbe.Proofs.Report.Filling
import KernelProbe.Proofs.Session.Refusal

/-!
# Logs that break off

A log whose sink has room for `n` bytes breaks off at exactly that byte. Up to the event that does
not fit, a run with such a sink asks what the run with an unbounded sink asks
(`Program.run_filling`). From the refused event on the battery reports nothing more, so that nothing
is written behind the first `n` bytes either, and the run ends with the error of the byte that did
not fit (`standard_filling`).
-/

namespace KernelProbe

open Journal

/-! ## Two runs -/

namespace Program

variable {α κ ρ : Type} {reporter : Reporter ρ} {sink : ρ → Sink} {upTo : Nat → ρ → ρ}
  {refusal : UInt8 → HarnessError} {r : ρ} {n : Nat}

/-- A run that reports nothing leaves the reporter as it was. -/
theorem reporter_of_reports_eq_nil (kernel : Kernel κ) (p : Program α) (k : κ)
    (h : (p.run kernel reporter k r).journal.reports = []) :
    (p.run kernel reporter k r).reporter = r := by
  induction p generalizing k with
  | pure a => rfl
  | ask q next ih =>
    cases q with
    | report event => simp [run, reports_cons, Entry.report?] at h
    | _ => exact ih _ _ h

/-- With an open sink every event is taken, and the bytes written before it stay. -/
theorem run_open (fills : reporter.Fills sink upTo refusal) (kernel : Kernel κ) (p : Program α)
    (k : κ) (hopen : (sink r).Open) :
    (p.run kernel reporter k r).journal.Accepted ∧
      ∃ bytes, sink (p.run kernel reporter k r).reporter = (sink r).extend bytes := by
  induction p generalizing k r with
  | pure a => exact ⟨accepted_of_reports_eq_nil rfl, [], Sink.extend_nil.symm⟩
  | ask q next ih =>
    cases q with
    | report event =>
      obtain ⟨bytes, hbytes⟩ := fills.grows event r hopen
      have htaken : Accepted [⟨.report event, (reporter.receive event r).1⟩] := by
        rw [fills.takes event r hopen]
        exact accepted_report event
      obtain ⟨haccepted, more, hmore⟩ := ih (reporter.receive event r).1 k
        (r := (reporter.receive event r).2) (hbytes ▸ hopen.extend bytes)
      refine ⟨accepted_cons.mpr ⟨htaken, haccepted⟩, bytes ++ more, ?_⟩
      rw [← Sink.extend_extend, ← hbytes]
      exact hmore
    | _ =>
      obtain ⟨haccepted, hgrown⟩ := ih _ _ hopen
      exact ⟨accepted_cons.mpr ⟨accepted_of_reports_eq_nil rfl, haccepted⟩, hgrown⟩

/-- With room for `n` bytes a program either goes through the journal that it goes through with an
open sink, or up to the event within which the room ends. -/
theorem run_filling (fills : reporter.Fills sink upTo refusal) (kernel : Kernel κ) (p : Program α)
    (k : κ) (hopen : (sink r).Open) (hfits : (sink r).written.length ≤ n) :
    let full := p.run kernel reporter k r
    let cut := p.run kernel reporter k (upTo n r)
    (cut.journal = full.journal ∧ cut.result = full.result ∧ cut.reporter = upTo n full.reporter ∧
        (sink full.reporter).written.length ≤ n) ∨
      ∃ (before after tail : Journal) (event : ReportEvent) (b : UInt8),
        full.journal = before ++ ⟨.report event, .ok ()⟩ :: after ∧
        cut.journal = before ++ ⟨.report event, .error (refusal b)⟩ :: tail ∧
        (sink full.reporter).written[n]? = some b ∧
        (tail.reports = [] →
          (sink cut.reporter).written = (sink full.reporter).written.take n) := by
  induction p generalizing k r with
  | pure a => exact .inl ⟨rfl, rfl, rfl, hfits⟩
  | ask q next ih =>
    cases q with
    | report event =>
      obtain ⟨bytes, hbytes⟩ := fills.grows event r hopen
      have hopen' : (sink (reporter.receive event r).2).Open := hbytes ▸ hopen.extend bytes
      have hfull : answer kernel reporter (.report event) k r
          = (.ok (), k, (reporter.receive event r).2) :=
        congrArg (·, k, (reporter.receive event r).2) (fills.takes event r hopen)
      have hcut : answer kernel reporter (.report event) k (upTo n r)
          = (Sink.verdict refusal (sink (reporter.receive event r).2).written[n]?, k,
              upTo n (reporter.receive event r).2) := by
        simp only [answer, fills.limited event r n hopen hfits]
      simp only [run, hfull, hcut]
      cases hbyte : (sink (reporter.receive event r).2).written[n]? with
      | none =>
        -- the event fits, and the rest of the program decides
        have hfits' := List.getElem?_eq_none_iff.mp hbyte
        obtain ⟨hjournal, hrest⟩ | ⟨before, after, tail, event', b, hbefore, hbefore', hrest⟩ :=
          ih (.ok ()) k hopen' hfits'
        · exact .inl ⟨congrArg (_ :: ·) hjournal, hrest⟩
        · exact .inr ⟨_ :: before, after, tail, event', b, congrArg (_ :: ·) hbefore,
            congrArg (_ :: ·) hbefore', hrest⟩
      | some b =>
        -- whatever the full run writes later stands behind what it has written so far
        obtain ⟨-, more, hmore⟩ := run_open fills kernel (next (.ok ())) k hopen'
        have hlt : n < (sink (reporter.receive event r).2).written.length :=
          (List.getElem?_eq_some_iff.mp hbyte).1
        refine .inr ⟨[], _, _, event, b, rfl, rfl, ?_, fun hquiet => ?_⟩
        · rw [hmore, Sink.written_extend, List.getElem?_append_left hlt, hbyte]
        · rw [reporter_of_reports_eq_nil kernel _ k hquiet, fills.sink_upTo, Sink.written_upTo,
            hmore, Sink.written_extend, List.take_append_of_le_length (Nat.le_of_lt hlt)]
    | _ =>
      obtain ⟨hjournal, hrest⟩ | ⟨before, after, tail, event', b, hbefore, hbefore', hrest⟩ :=
        ih _ _ hopen hfits
      · exact .inl ⟨congrArg (_ :: ·) hjournal, hrest⟩
      · exact .inr ⟨_ :: before, after, tail, event', b, congrArg (_ :: ·) hbefore,
          congrArg (_ :: ·) hbefore', hrest⟩

end Program

namespace Battery

/-! ## The standard battery -/

/-- The results and the bytes of two runs, one with an open sink and one with room for `n` bytes. -/
structure Truncates {α : Type} (refusal : UInt8 → HarnessError) (n : Nat)
    (full cut : Except HarnessError α) (bytes written : List UInt8) : Prop where
  completes : ∃ a, full = .ok a
  written : written = bytes.take n
  fits : bytes.length ≤ n → cut = full
  breaks : ∀ b, bytes[n]? = some b → cut = .error (refusal b)

/-- With room for `n` bytes in all, what a run of the standard battery writes are the first `n`
bytes that it writes without bound. If these are not all, the run ends with the error of the byte
that did not fit, else as it does without bound, with a summary. -/
theorem standard_filling {κ ρ : Type} {reporter : Reporter ρ} {sink : ρ → Sink}
    {upTo : Nat → ρ → ρ} {refusal : UInt8 → HarnessError}
    (fills : reporter.Fills sink upTo refusal) (kernel : Kernel κ) (k : κ) {r r' : ρ} {n : Nat}
    (hr' : r' = upTo n r) (hopen : (sink r).Open) (hnone : (sink r).written = [])
    {c : HarnessConfig} {b : Battery} (hb : standard c = .ok b) (runId : String)
    (startedAt : Int64) :
    let full := (b.run runId startedAt).run kernel reporter k r
    let cut := (b.run runId startedAt).run kernel reporter k r'
    Truncates refusal n full.result cut.result (sink full.reporter).written
      (sink cut.reporter).written := by
  intro full cut
  subst hr'
  obtain ⟨missing, existing, hc, rfl⟩ := standard_eq_ok hb
  have hcourse {r : ρ} : RunCourse (ofRequests c missing existing) runId startedAt
      (((ofRequests c missing existing).run runId startedAt).run kernel reporter k r).journal
      (((ofRequests c missing existing).run runId startedAt).run kernel reporter k r).result :=
    plays_run (Program.run_plays ..)
  have haccepted : full.journal.Accepted := (Program.run_open fills kernel _ k hopen).1
  obtain ⟨-, s, -, -, hcompleted⟩ := hcourse.ended_of_accepted haccepted
  have hfits : (sink r).written.length ≤ n := by simp [hnone]
  obtain ⟨-, hresult, hreporter, hroom⟩ | ⟨before, after, tail, event, b, hfull, hcut, hbyte,
    hwritten⟩ := Program.run_filling fills kernel ((ofRequests c missing existing).run runId
      startedAt) k hopen hfits
  · refine ⟨⟨_, hcompleted⟩, ?_, fun _ => hresult, fun b hb => ?_⟩
    · rw [hreporter, fills.sink_upTo, Sink.written_upTo]
    · rw [List.getElem?_eq_none hroom] at hb
      cases hb
  · -- what comes behind the refused event reports nothing
    have hbefore : before.Accepted := (accepted_append.mp (hfull ▸ haccepted)).1
    obtain ⟨hall, -⟩ | ⟨before', tail', event', e', hcut', hbefore', hquiet, -, hresult⟩ :=
      hcourse.refusal (within_ofRequests hc)
    · rw [hcut] at hall
      cases hall event (.error (refusal b)) (by simp)
    obtain ⟨rfl, rfl, rfl, rfl⟩ := first_refused_unique hbefore hbefore' (hcut.symm.trans hcut')
    refine ⟨⟨_, hcompleted⟩, hwritten hquiet, fun hroom => ?_, fun b' hb' => ?_⟩
    · rw [List.getElem?_eq_none hroom] at hbyte
      cases hbyte
    · obtain rfl : b = b' := Option.some.inj (hbyte.symm.trans hb')
      exact hresult

/-- A run with a full sink has a summary if and only if everything fits. -/
theorem Truncates.ok_iff {α : Type} {refusal : UInt8 → HarnessError} {n : Nat}
    {full cut : Except HarnessError α} {bytes written : List UInt8}
    (h : Truncates refusal n full cut bytes written) : (∃ a, cut = .ok a) ↔ bytes.length ≤ n := by
  constructor
  · rintro ⟨a, rfl⟩
    refine Nat.le_of_not_lt fun hlt => ?_
    cases h.breaks _ (List.getElem?_eq_getElem hlt)
  · intro hroom
    rw [h.fits hroom]
    exact h.completes

/-- What a log without bound writes in a run of the standard battery, the same log in a sink with
room for `n` bytes writes up to the `n`-th byte. The run returns a summary if and only if everything
fits. Otherwise a text log ends it with an error of the output, and JSON lines do so if the first
byte that does not fit is a line break, and else with an error of the serialization. -/
theorem standard_truncated {κ : Type} (kernel : Kernel κ) (k : κ) {c : HarnessConfig} {b : Battery}
    (hb : standard c = .ok b) (runId : String) (startedAt : Int64) (n : Nat) :
    (∀ color,
      let full := (b.run runId startedAt).run kernel TextLog.reporter k { color }
      let cut := (b.run runId startedAt).run kernel TextLog.reporter k
        { color, sink := { room := some n } }
      let bytes := full.reporter.sink.written
      (∃ summary, full.result = .ok summary) ∧ cut.reporter.sink.written = bytes.take n ∧
        ((∃ summary, cut.result = .ok summary) ↔ bytes.length ≤ n) ∧
        (n < bytes.length → cut.result = .error (.output Sink.closed))) ∧
      let full := (b.run runId startedAt).run kernel JsonLines.reporter k {}
      let cut := (b.run runId startedAt).run kernel JsonLines.reporter k { room := some n }
      let bytes := full.reporter.written
      (∃ summary, full.result = .ok summary) ∧ cut.reporter.written = bytes.take n ∧
        ((∃ summary, cut.result = .ok summary) ↔ bytes.length ≤ n) ∧
        (n < bytes.length → cut.result = .error
          (if bytes[n]? = some 10 then .output Sink.closed else .serialization Sink.closed)) := by
  constructor
  · intro color
    have htext := standard_filling TextLog.fills kernel k (TextLog.upTo_empty n color).symm
      ⟨rfl, rfl⟩ rfl hb runId startedAt
    dsimp only at htext ⊢
    exact ⟨htext.completes, htext.written, htext.ok_iff,
      fun hlt => htext.breaks _ (List.getElem?_eq_getElem hlt)⟩
  · have hlines := standard_filling JsonLines.fills kernel k (Sink.upTo_empty (n := n)).symm
      ⟨rfl, rfl⟩ rfl hb runId startedAt
    dsimp only [id] at hlines ⊢
    refine ⟨hlines.completes, hlines.written, hlines.ok_iff, fun hlt => ?_⟩
    rw [hlines.breaks _ (List.getElem?_eq_getElem hlt), List.getElem?_eq_getElem hlt]
    simp only [Sink.lineRefusal, Option.some.injEq]

/-- Logs of a run of the default battery on the modelled machine, with room for 10 bytes: the text
breaks off within its first line, and JSON lines within the first object. -/
theorem standard_truncated_default : ∃ b, standard {} = .ok b ∧
    (let full := (b.run "run" 0).run Host.Machine.kernel TextLog.reporter Host.Machine.start {}
    let cut := (b.run "run" 0).run Host.Machine.kernel TextLog.reporter Host.Machine.start
      { sink := { room := some 10 } }
    10 < full.reporter.sink.written.length ∧
      cut.reporter.sink.written = full.reporter.sink.written.take 10 ∧
      cut.result = .error (.output Sink.closed)) ∧
    let full := (b.run "run" 0).run Host.Machine.kernel JsonLines.reporter Host.Machine.start {}
    let cut := (b.run "run" 0).run Host.Machine.kernel JsonLines.reporter Host.Machine.start
      { room := some 10 }
    full.reporter.written[10]? = some 117 ∧
      cut.reporter.written = full.reporter.written.take 10 ∧
      cut.result = .error (.serialization Sink.closed) := by
  obtain ⟨b, hb⟩ : ∃ b, standard {} = .ok b := ⟨_, rfl⟩
  have hcut : ∀ b, standard {} = .ok b → ¬((b.run "run" 0).run Host.Machine.kernel
      TextLog.reporter Host.Machine.start { sink := { room := some 10 } }).result.toBool := by
    intro b hb
    cases hb
    decide +kernel
  have hbyte : ∀ b, standard {} = .ok b → ((b.run "run" 0).run Host.Machine.kernel
      JsonLines.reporter Host.Machine.start {}).reporter.written[10]? = some 117 := by
    intro b hb
    cases hb
    decide +kernel
  obtain ⟨htext, hlines⟩ :=
    standard_truncated Host.Machine.kernel Host.Machine.start hb "run" 0 10
  dsimp only at htext hlines
  obtain ⟨-, htext, hok, hended⟩ := htext false
  -- the run with little room is short, and that it gave up shows that not all of the log fits
  have hlength := Nat.lt_of_not_le fun hle => by
    obtain ⟨summary, hsummary⟩ := hok.mpr hle
    exact hcut b hb (by rw [hsummary, Except.toBool])
  obtain ⟨-, hwritten, -, hresult⟩ := hlines
  refine ⟨b, hb, ⟨hlength, htext, hended hlength⟩, hbyte b hb, hwritten, ?_⟩
  rw [hresult (List.getElem?_eq_some_iff.mp (hbyte b hb)).1, hbyte b hb]
  rfl

end Battery

end KernelProbe
