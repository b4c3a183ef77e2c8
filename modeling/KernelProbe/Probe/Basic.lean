import KernelProbe.Program.Step

/-!
# Probes

A `Probe` acquires what it needs, issues the calls under test, and judges what it observed; its
cleanup runs on every path. `Probe.run` takes a probe to an outcome and the evidence that it noted,
whatever the kernel answers and whatever gives up on the way.
-/

namespace KernelProbe

/-- What a judgement works on: the context of the group, and the evidence noted so far. -/
structure Exam (C : Type) where
  /-- What the probes of the group share. -/
  context : C
  /-- What the probe saw. -/
  evidence : Evidence
deriving Repr

/-- A judgement: it notes evidence, may change the context and may halt, but asks nothing. -/
abbrev Judge (C : Type) := ExceptT Halt (StateM (Exam C))

namespace Judge

variable {C α : Type}

/-- Find that the kernel broke the contract. -/
def refute (message : String) (observed : Option RawReturn) : Judge C α :=
  throw (.failed (.assertion message observed))

/-- Stop with an error. -/
def fail (error : ProbeError) : Judge C α := throw (.failed error)

/-- Stop with a fault. -/
def panic (fault : Fault) : Judge C α := throw (.panicked fault)

/-- The value of a computation that may give up. -/
def ofExcept : Except Fault α → Judge C α
  | .ok a => pure a
  | .error fault => panic fault

/-- Note evidence. -/
def note (key value : String) : Judge C Unit :=
  modify fun exam => { exam with evidence := exam.evidence.push key value }

/-- Note a number as evidence. -/
def noteNat (key : String) (n : Nat) : Judge C Unit := note key (Text.decimal n)

/-- Note a signed number as evidence. -/
def noteInt (key : String) (i : Int) : Judge C Unit := note key (Text.integer i)

/-- The context. -/
def context : Judge C C := return (← get).context

/-- Change the context. -/
def update (f : C → C) : Judge C Unit :=
  modify fun exam => { exam with context := f exam.context }

end Judge

/-- A test of system calls, made of a setup, an invocation that yields an observation, a check of
the observation, and a cleanup. -/
structure Probe (C Obs : Type) where
  /-- The identity of the probe. -/
  spec : ProbeSpec
  /-- Acquire what the invocation needs. -/
  setup : Step C Unit := pure ()
  /-- Issue the calls under test. -/
  invoke : Step C Obs
  /-- Judge the observation against the contract. -/
  check : Obs → Judge C Unit
  /-- Release what the probe acquired. -/
  cleanup : Step C Unit := pure ()

namespace Probe

variable {C Obs α : Type}

/-- Let a step that knows only the context work on an exam. -/
def onContext (step : Step C α) : Step (Exam C) α :=
  ExceptT.mk fun exam => do
    let (result, context) ← step.run.run exam.context
    return (result, { exam with context := context })

/-- Let a judgement work within a step. -/
def judged (judge : Judge C α) : Step (Exam C) α :=
  ExceptT.mk fun exam => pure (judge.run.run exam)

/-- Setup, invocation and check in turn. -/
def lifecycle (p : Probe C Obs) : Step (Exam C) Unit := do
  onContext p.setup
  let observed ← onContext p.invoke
  judged (p.check observed)

/-- The target of the log events about the course of a probe. -/
def logTarget : String := "sysprobe_core::application::runner"

/-- The outcome of a lifecycle, with a log event if the probe met an error. -/
def settle (name : String) : Guarded (Except ProbeError Unit) → Program Outcome
  | .completed (.ok ()) => return .pass
  | .completed (.error e) => do
    Program.log
      { level := .debug, target := logTarget, message := "Probe did not pass",
        fields := [("probe", .text name), ("error", .text e.message)] }
    return e.outcome
  | .panicked message => return (ProbeError.panicked message).outcome

/-- Run a probe to its outcome and evidence. A cleanup that gives up fails a probe that passed. -/
def run (p : Probe C Obs) : StateT C Program (Outcome × Evidence) := fun context => do
  let (lifecycle, exam) ← (Step.guarded p.spec.name p.lifecycle).run ⟨context, .empty⟩
  let (cleanup, context) ← (Step.guarded p.spec.name p.cleanup).run exam.context
  let outcome ← settle p.spec.name lifecycle
  match outcome, cleanup with
  | .pass, .panicked message =>
    Program.log
      { level := .warn, target := logTarget, message := "Cleanup panicked after a passing probe",
        fields := [("probe", .text p.spec.name)] }
    return (((ProbeError.panicked ("cleanup: " ++ message)).outcome, exam.evidence), context)
  | _, _ => return ((outcome, exam.evidence), context)

end Probe

/-- A probe whose observations are its own affair: its identity and how it runs. -/
structure Trial (C : Type) where
  /-- The identity of the probe. -/
  spec : ProbeSpec
  /-- Run it to its outcome and evidence. -/
  run : StateT C Program (Outcome × Evidence)

/-- A probe as a trial. -/
def Probe.trial {C Obs : Type} (p : Probe C Obs) : Trial C := ⟨p.spec, p.run⟩

/-- Probes that share a context, in the order in which they run. -/
structure Group where
  /-- What the probes share. -/
  Context : Type
  /-- The name of the group. -/
  name : String
  /-- The context before the first probe. -/
  start : Context
  /-- The probes. -/
  trials : List (Trial Context)
  /-- What the group does with the run so far before its first probe. -/
  opening : RunSummary → Program Unit := fun _ => pure ()
  /-- Release whatever the probes left behind. -/
  teardown : Step Context Unit := pure ()

/-- The identities of a group's probes. -/
def Group.specs (g : Group) : List ProbeSpec := g.trials.map (·.spec)

end KernelProbe
