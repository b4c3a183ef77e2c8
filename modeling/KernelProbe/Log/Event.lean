import KernelProbe.Text.Numeral

/-!
# Log events

A `LogEvent` is one line of the diagnostic log: its level, the part of the program that it comes
from, a message, and named fields.
-/

namespace KernelProbe

/-- How much a log event matters, from the most to the least. -/
inductive LogLevel where
  /-- Something went wrong in the program's own surroundings. -/
  | error
  /-- Something is not as it should be. -/
  | warn
  /-- Progress. -/
  | info
  /-- Details. -/
  | debug
  /-- Every step. -/
  | trace
deriving DecidableEq, Repr

namespace LogLevel

/-- The name of a level. -/
def name : LogLevel → String
  | error => "ERROR"
  | warn => "WARN"
  | info => "INFO"
  | debug => "DEBUG"
  | trace => "TRACE"

/-- The place of a level in the order from the most to the least important. -/
def rank : LogLevel → Nat
  | error => 1
  | warn => 2
  | info => 3
  | debug => 4
  | trace => 5

end LogLevel

/-- The value of a field: a number or a text. -/
inductive LogValue where
  /-- A number. -/
  | int (i : Int)
  /-- A text. -/
  | text (s : String)
deriving DecidableEq, Repr

/-- The value as it is written. -/
def LogValue.render : LogValue → String
  | int i => Text.integer i
  | text s => s

/-- One line of the diagnostic log. -/
structure LogEvent where
  /-- How much it matters. -/
  level : LogLevel
  /-- The part of the program that it comes from. -/
  target : String
  /-- What happened. -/
  message : String
  /-- Named details. -/
  fields : List (String × LogValue) := []
deriving DecidableEq, Repr

/-- The names of everything that the event holds, its message first. -/
def LogEvent.fieldNames (e : LogEvent) : List String := "message" :: e.fields.map (·.1)

/-- The event on one line: level, message and fields. -/
def LogEvent.line (e : LogEvent) : String :=
  e.level.name ++ " " ++ e.message
    ++ String.join (e.fields.map fun (key, value) => " " ++ key ++ "=" ++ value.render)

end KernelProbe
