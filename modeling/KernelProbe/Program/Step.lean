import KernelProbe.Program.Basic

/-!
# Steps of a probe

A `Step` is a program that may change the context that the probes of a group share and may halt:
with an error, or by a fault of its own or of the code that makes its calls. The context keeps its
changes either way. `Step.guarded` is the boundary at which a fault stops unwinding.
-/

namespace KernelProbe

/-- Why a step stopped before its end. -/
inductive Halt where
  /-- An error that the step found. -/
  | failed (error : ProbeError)
  /-- A fault that unwinds. -/
  | panicked (fault : Fault)
deriving DecidableEq, Repr

/-- A program over a context that may halt. -/
abbrev Step (C : Type) := ExceptT Halt (StateT C Program)

/-- What came out of a guarded step. -/
inductive Guarded (α : Type) where
  /-- It came to its end. -/
  | completed (a : α)
  /-- A fault stopped it; this is its text. -/
  | panicked (message : String)
deriving DecidableEq, Repr

namespace Step

variable {C α : Type}

/-- Stop with an error. -/
def fail (error : ProbeError) : Step C α := throw (.failed error)

/-- Stop with a fault. -/
def panic (fault : Fault) : Step C α := throw (.panicked fault)

/-- The value of a computation that may give up. -/
def ofExcept : Except Fault α → Step C α
  | .ok a => pure a
  | .error fault => panic fault

/-- Ask one question. -/
def ask (q : Request) : Step C q.Answer := liftM (Program.request q)

/-- Read the clock. -/
def clock : Step C Instant := ask .clock

/-- Read a shared word again. -/
def load (last : UInt32) : Step C UInt32 := ask (.load last)

/-- Take note of a log event. -/
def log (event : LogEvent) : Step C Unit := ask (.log event)

/-- Whether the kernel has a system call. -/
def supports (syscall : Syscall) : Step C Bool := do
  ofExcept (← ask (.supports syscall))

/-- Make a call that is handed a shared word; `store` keeps the word's new value in the context,
whatever comes of the call. -/
def attemptStoring (c : Call) (store : UInt32 → C → C) : Step C (Except SyscallError c.Value) := do
  let reply ← ask (.call c)
  if let some word := reply.stored then
    modify (store word)
  match reply.returned with
  | .value a => return .ok a
  | .failed e => return .error e
  | .panicked fault => panic fault

/-- Make a call that may fail. -/
def attempt (c : Call) : Step C (Except SyscallError c.Value) := attemptStoring c fun _ => id

/-- Make a call whose failure stops the step as unexpected. -/
def call (c : Call) : Step C c.Value := do
  match ← attempt c with
  | .ok a => return a
  | .error e => fail (.unexpected e)

/-- Make a call that the probe needs before it can start; its failure is one of the setup. -/
def need (message : String) (c : Call) : Step C c.Value := do
  match ← attempt c with
  | .ok a => return a
  | .error e => fail (.setupCall message e)

/-- Run a step up to the boundary of a probe or group named `scope`: a fault is logged and turned
into its text. -/
def guarded (scope : String) (step : Step C α) :
    StateT C Program (Guarded (Except ProbeError α)) := do
  match ← step.run with
  | .ok a => return .completed (.ok a)
  | .error (.failed e) => return .completed (.error e)
  | .error (.panicked fault) =>
    Program.log
      { level := .error, target := "sysprobe_core::application::panic_guard",
        message := "Panic caught at probe boundary",
        fields := [("scope", .text scope), ("panic_msg", .text fault.message)] }
    return .panicked fault.message

end Step

end KernelProbe
