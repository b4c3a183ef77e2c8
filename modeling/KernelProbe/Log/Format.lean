import KernelProbe.Json.Printer
import KernelProbe.Log.Event
import KernelProbe.Text.Split

/-!
# The diagnostic log in print

How a log event is written: as one JSON object on a line for programs, or as a line for people.
-/

namespace KernelProbe

/-- The format of the diagnostic log. -/
inductive LogFormat where
  /-- A line for people. -/
  | pretty
  /-- A JSON object. -/
  | json
deriving DecidableEq, Repr

namespace LogFormat

/-- The environment variable that picks the format. -/
def envName : String := "SYSPROBE_LOG_FORMAT"

/-- The format that an environment picks. -/
def ofEnv (env : List (String × String)) : LogFormat :=
  if env.lookup envName = some "json" then .json else .pretty

end LogFormat

/-- A value as JSON. -/
def LogValue.toJson : LogValue → Json
  | int i => .int i
  | text s => .string s

/-- The message of an event and its fields. -/
def LogEvent.fieldsJson (e : LogEvent) : List (String × Json) :=
  ("message", .string e.message) :: e.fields.map fun (name, value) => (name, value.toJson)

/-- An event in a format. -/
def LogEvent.render (format : LogFormat) (e : LogEvent) : String :=
  match format with
  | .json =>
    (Json.object [("level", .string e.level.name), ("fields", .object e.fieldsJson),
      ("target", .string e.target)]).render
  | .pretty =>
    let fields := e.fields.map fun (name, value) => name ++ ": " ++ value.render
    "  " ++ e.level.name ++ " " ++ e.target ++ ": " ++ Text.join ", " (e.message :: fields)

end KernelProbe
