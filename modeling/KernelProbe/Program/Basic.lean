import KernelProbe.Abi.Call
import KernelProbe.Log.Event
import KernelProbe.Report.Event

/-!
# Programs that ask

A `Program` is a computation that asks its surroundings questions and goes on from the answers: it
calls the kernel, reads the clock, writes log events and report events. A `Request` is a question,
`Request.Answer` the type of its answers. A program holds no answer of its own, so what it does is
known for every kernel and every reporter at once.
-/

namespace KernelProbe

/-- A question to the surroundings of a program. -/
inductive Request where
  /-- Is the system call part of the kernel's ABI? -/
  | supports (syscall : Syscall)
  /-- Make a system call. -/
  | call (c : Call)
  /-- What time is it? -/
  | clock
  /-- What does a word shared with the kernel hold, which held `last` when last seen? -/
  | load (last : UInt32)
  /-- Take a log event. -/
  | log (event : LogEvent)
  /-- Take a report event. -/
  | report (event : ReportEvent)
deriving DecidableEq, Repr

/-- What a question can be answered with. -/
abbrev Request.Answer : Request → Type
  | supports _ => Except Fault Bool
  | call c => Reply c.Value
  | clock => Instant
  | load _ => UInt32
  | log _ => Unit
  | report _ => Except HarnessError Unit

/-- A computation that asks questions and goes on from the answers. -/
inductive Program (α : Type) where
  /-- Done, with a result. -/
  | pure (a : α)
  /-- Ask `q` and go on from its answer. -/
  | ask (q : Request) (next : q.Answer → Program α)

namespace Program

variable {α β γ : Type}

/-- Go on with `f` from the result. -/
def bind : Program α → (α → Program β) → Program β
  | pure a, f => f a
  | ask q next, f => ask q fun answer => (next answer).bind f

/-- Ask one question for its answer. -/
def request (q : Request) : Program q.Answer := ask q pure

instance : Monad Program where
  pure := Program.pure
  bind := Program.bind

/-- Take note of a log event. -/
def log (event : LogEvent) : Program Unit := request (.log event)

@[simp] theorem pure_bind' (a : α) (f : α → Program β) : (Program.pure a).bind f = f a := rfl

@[simp] theorem ask_bind (q : Request) (next : q.Answer → Program α) (f : α → Program β) :
    (ask q next).bind f = ask q fun answer => (next answer).bind f := rfl

theorem bind_pure' (p : Program α) : p.bind Program.pure = p := by
  induction p with
  | pure a => rfl
  | ask q next ih => simp [ih]

theorem bind_assoc' (p : Program α) (f : α → Program β) (g : β → Program γ) :
    (p.bind f).bind g = p.bind fun a => (f a).bind g := by
  induction p with
  | pure a => rfl
  | ask q next ih => simp [ih]

instance : LawfulMonad Program := LawfulMonad.mk' Program
  (fun p => bind_pure' p)
  (fun _ _ => rfl)
  (fun p f g => bind_assoc' p f g)

end Program

end KernelProbe
