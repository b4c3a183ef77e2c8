import KernelProbe.Probe.Basic
import KernelProbe.Program.Execution

/-!
# Scripted probes

Probes that do as they are told in each phase, for tests of the course of a run. They leave remarks
on which phase came when, and count in the context of their group how far they got; the remarks of a
group are handed over as log events of their own target when the group is torn down.
-/

namespace KernelProbe.Scripted

/-- What a scripted probe does in a phase. -/
inductive Act where
  /-- Give up. -/
  | panic (fault : Fault)
  /-- Stop with an error. -/
  | fail (error : ProbeError)
  /-- Ask the kernel for the process id. -/
  | askPid
  /-- Nothing. -/
  | pass
deriving DecidableEq, Repr

/-- The script of a probe. -/
structure ProbeScript where
  /-- The identity of the probe. -/
  spec : ProbeSpec
  /-- What it does in its setup. -/
  setup : Act := .pass
  /-- What it does in its invocation. -/
  invoke : Act := .pass
  /-- What it does in its check. -/
  check : Act := .pass
  /-- What it does in its cleanup. -/
  cleanup : Act := .pass
  /-- What it notes as evidence. -/
  evidence : List (String × String) := []
deriving DecidableEq, Repr

/-- What the probes of a scripted group share. -/
structure Context where
  /-- How far the probes got: 1 for an invocation, 10 for a check, 100 for a cleanup. -/
  seen : Nat := 0
  /-- Whether a probe of the group reached its setup. -/
  started : Bool := false
  /-- The remarks so far. -/
  remarks : List String := []
deriving DecidableEq, Repr

namespace Context

/-- Leave a remark. -/
def remark (text : String) (c : Context) : Context := { c with remarks := c.remarks ++ [text] }

/-- Get further by `n`. -/
def advance (n : Nat) (c : Context) : Context := { c with seen := c.seen + n }

end Context

/-- The target of remarks among the log events. -/
def remarkTarget : String := "kernel_probe::remark"

/-- A remark as a log event. -/
def remarkEvent (text : String) : LogEvent :=
  { level := .trace, target := remarkTarget, message := text }

/-- The remarks of a run. -/
def remarks (j : Journal) : List String :=
  (j.logs.filter (·.target == remarkTarget)).map (·.message)

/-- The log of a run without its remarks. -/
def logs (j : Journal) : List LogEvent := j.logs.filter (·.target != remarkTarget)

/-- Act in a phase that may ask the kernel. -/
def act : Act → Step Context Unit
  | .panic fault => Step.panic fault
  | .fail error => Step.fail error
  | .askPid => do
    let _ ← Step.call .getpid
  | .pass => pure ()

/-- Act in a check, where the kernel is out of reach. -/
def judge : Act → Judge Context Unit
  | .panic fault => Judge.panic fault
  | .fail error => Judge.fail error
  | .askPid | .pass => pure ()

/-- A probe that follows its script. -/
def probe (s : ProbeScript) : Probe Context Nat where
  spec := s.spec
  setup := do
    modify fun c => { c.remark (s.spec.name ++ " setup") with started := true }
    act s.setup
  invoke := do
    modify fun c => (c.advance 1).remark (s.spec.name ++ " invoke")
    act s.invoke
    return (← get).seen
  check observed := do
    Judge.update (·.remark (s.spec.name ++ " check"))
    Judge.noteNat "seen" observed
    s.evidence.forM fun (key, value) => Judge.note key value
    Judge.update (·.advance 10)
    judge s.check
  cleanup := do
    modify fun c => (c.remark (s.spec.name ++ " cleanup")).advance 100
    act s.cleanup

/-- Hand over the remarks and leave one more; then give up, if the script says so and a probe
reached its setup. -/
def teardown (fault : Option String) : Step Context Unit := do
  modify fun c => c.remark ("teardown after " ++ Text.decimal c.seen)
  let c ← get
  c.remarks.forM fun text => Step.log (remarkEvent text)
  if let some text := fault then
    if c.started then
      Step.panic (.text text)

/-- A group of scripted probes. -/
def group (name : String) (scripts : List ProbeScript) (fault : Option String) : Group where
  Context := Context
  name := name
  start := {}
  trials := scripts.map fun s => (probe s).trial
  teardown := teardown fault

/-- A group without probes that remarks on the totals so far. -/
def inspector (name : String) : Group where
  Context := Unit
  name := name
  start := ()
  trials := []
  opening s := Program.log (remarkEvent ("totals " ++ Text.decimal s.passed ++ " "
    ++ Text.decimal s.failed ++ " " ++ Text.decimal s.skipped ++ " "
    ++ (if s.complete then "true" else "false")))

end KernelProbe.Scripted
