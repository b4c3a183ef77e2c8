import KernelProbe.Text.Utf8
import KernelProbe.Verdict.Failure

/-!
# Sinks

Where a reporter's bytes go. A sink may have room for so many bytes only; what does not fit is lost,
what fitted stays. It may also refuse to be flushed.
-/

namespace KernelProbe

/-- A sink and what was written to it. -/
structure Sink where
  /-- How many more bytes fit; no bound if absent. -/
  room : Option Nat := none
  /-- Whether a flush fails. -/
  flushFails : Bool := false
  /-- The bytes that were written. -/
  written : List UInt8 := []
deriving DecidableEq, Repr

namespace Sink

/-- The words of the error when a sink is full. -/
def closed : String := "sink closed"

/-- The words of the error when a sink cannot be flushed. -/
def flushRefused : String := "flush refused"

/-- Write bytes as far as they fit, and tell whether they all did. -/
def write (bytes : List UInt8) (s : Sink) : Bool × Sink :=
  match s.room with
  | none => (true, { s with written := s.written ++ bytes })
  | some n =>
    (bytes.length ≤ n,
      { s with room := some (n - bytes.length), written := s.written ++ bytes.take n })

/-- Get everything out. -/
def flush (s : Sink) : Except HarnessError Unit :=
  if s.flushFails then .error (.output flushRefused) else .ok ()

/-- Write a text and get it out. -/
def writeText (text : String) (s : Sink) : Except HarnessError Unit × Sink :=
  match s.write (Text.encode text) with
  | (true, s) => (s.flush, s)
  | (false, s) => (.error (.output closed), s)

/-- Write a serialized value and a line break and get them out; a full sink within the value is an
error of the serialization. -/
def writeLine (value : String) (s : Sink) : Except HarnessError Unit × Sink :=
  match s.write (Text.encode value) with
  | (true, s) => s.writeText "\n"
  | (false, s) => (.error (.serialization closed), s)

end Sink

end KernelProbe
