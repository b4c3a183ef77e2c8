import KernelProbe.Report.Event

/-!
# Masking of measured times

Two runs against equal kernels differ in the times that they measure, and in how often a wait that
never succeeded was tried again. `maskTimes` makes their reports equal.
-/

namespace KernelProbe

/-- What stands in place of a measured value. -/
def maskMark : String := "*"

/-- Whether evidence of a probe with this outcome under a key depends on measured times. -/
def Outcome.measures (o : Outcome) (key : String) : Bool :=
  key == "elapsed_us" || key == "waits" && o.isFail

/-- Evidence without measured times. -/
def Evidence.maskTimes (o : Outcome) (e : Evidence) : Evidence :=
  ⟨e.entries.map fun (key, value) => (key, if o.measures key then maskMark else value)⟩

/-- A record without measured times. -/
def ProbeRecord.maskTimes (r : ProbeRecord) : ProbeRecord :=
  { r with evidence := r.evidence.maskTimes r.outcome, elapsedMicros := 0 }

/-- A summary without measured times. -/
def RunSummary.maskTimes (s : RunSummary) : RunSummary :=
  { s with records := s.records.map ProbeRecord.maskTimes }

/-- A report event without measured times. -/
def ReportEvent.maskTimes : ReportEvent → ReportEvent
  | .record r => .record r.maskTimes
  | .checkpoint s => .checkpoint s.maskTimes
  | .finish s => .finish s.maskTimes
  | event => event

end KernelProbe
