import KernelProbe.Program.Basic

/-!
# Executions

A `Kernel` and a `Reporter` are state machines that answer a program's questions. `Program.run`
plays a program against them and keeps a journal of every question with its answer, in order; the
calls, log events and report events of a run are read off the journal. `Program.runWhile` stops
as soon as the kernel no longer gives control back.
-/

namespace KernelProbe

/-- A state machine that answers for a kernel. -/
structure Kernel (κ : Type) where
  /-- Whether a system call is part of the ABI. -/
  supports : Syscall → κ → Except Fault Bool × κ
  /-- Make a call. -/
  call : (c : Call) → κ → Reply c.Value × κ
  /-- Read the monotonic clock. -/
  clock : κ → Instant × κ
  /-- Read a shared word that held the given value when last seen. -/
  load : UInt32 → κ → UInt32 × κ

/-- A question and the answer that it got. -/
structure Entry where
  /-- The question. -/
  request : Request
  /-- The answer. -/
  answer : request.Answer

namespace Entry

/-- The call that was made, if the question was one. -/
def call? (e : Entry) : Option Call :=
  match e.request with
  | .call c => some c
  | _ => none

/-- The log event, if the entry is one. -/
def log? (e : Entry) : Option LogEvent :=
  match e.request with
  | .log event => some event
  | _ => none

/-- The report event, if the entry is one. -/
def report? (e : Entry) : Option ReportEvent :=
  match e.request with
  | .report event => some event
  | _ => none

end Entry

/-- What was asked and answered, in order. -/
abbrev Journal := List Entry

namespace Journal

/-- The calls made. -/
def calls (j : Journal) : List Call := j.filterMap Entry.call?

/-- The log events. -/
def logs (j : Journal) : List LogEvent := j.filterMap Entry.log?

/-- The report events, taken or refused. -/
def reports (j : Journal) : List ReportEvent := j.filterMap Entry.report?

end Journal

/-- How a program ran: its result, the kernel and reporter after it, and the journal. -/
structure Execution (α κ ρ : Type) where
  /-- The program's result. -/
  result : α
  /-- The kernel's state at the end. -/
  kernel : κ
  /-- The reporter's state at the end. -/
  reporter : ρ
  /-- What was asked and answered. -/
  journal : Journal

/-- The answer of a kernel and a reporter to a question, and their states after it. -/
def answer {κ ρ : Type} (kernel : Kernel κ) (reporter : Reporter ρ) :
    (q : Request) → κ → ρ → q.Answer × κ × ρ
  | .supports s, k, r => let (a, k) := kernel.supports s k; (a, k, r)
  | .call c, k, r => let (a, k) := kernel.call c k; (a, k, r)
  | .clock, k, r => let (a, k) := kernel.clock k; (a, k, r)
  | .load last, k, r => let (a, k) := kernel.load last k; (a, k, r)
  | .log _, k, r => ((), k, r)
  | .report e, k, r => let (a, r) := reporter.receive e r; (a, k, r)

namespace Program

variable {α β κ ρ : Type}

/-- Play the program against a kernel and a reporter. -/
def run (kernel : Kernel κ) (reporter : Reporter ρ) : Program α → κ → ρ → Execution α κ ρ
  | pure a, k, r => ⟨a, k, r, []⟩
  | ask q next, k, r =>
    let (a, k, r) := answer kernel reporter q k r
    let rest := (next a).run kernel reporter k r
    { rest with journal := ⟨q, a⟩ :: rest.journal }

/-- Play the program as long as the kernel is `alive`; there is a result only if it is so to the
end. -/
def runWhile (alive : κ → Bool) (kernel : Kernel κ) (reporter : Reporter ρ) :
    Program α → κ → ρ → Execution (Option α) κ ρ
  | pure a, k, r => ⟨some a, k, r, []⟩
  | ask q next, k, r =>
    let (a, k, r) := answer kernel reporter q k r
    if alive k then
      let rest := (next a).runWhile alive kernel reporter k r
      { rest with journal := ⟨q, a⟩ :: rest.journal }
    else ⟨none, k, r, [⟨q, a⟩]⟩

@[simp] theorem run_pure (kernel : Kernel κ) (reporter : Reporter ρ) (a : α) (k : κ) (r : ρ) :
    (Program.pure a).run kernel reporter k r = ⟨a, k, r, []⟩ := rfl

/-- Running two programs one after the other joins their journals. -/
theorem run_bind (kernel : Kernel κ) (reporter : Reporter ρ) (p : Program α) (f : α → Program β)
    (k : κ) (r : ρ) :
    (p.bind f).run kernel reporter k r =
      let first := p.run kernel reporter k r
      let second := (f first.result).run kernel reporter first.kernel first.reporter
      { second with journal := first.journal ++ second.journal } := by
  induction p generalizing k r with
  | pure a => simp
  | ask q next ih => simp [run, ih]

end Program

end KernelProbe
