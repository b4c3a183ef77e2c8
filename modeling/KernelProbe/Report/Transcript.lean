import KernelProbe.Codec.Decode
import KernelProbe.Log.Format
import KernelProbe.Report.Masking
import KernelProbe.Text.Split
import KernelProbe.Text.Utf8

/-!
# Transcripts

What a process wrote, line by line, without what differs from one host or run to the next: names and
times of runs, ids, addresses, measured times, and how the host is called. Two runs of one program
on healthy hosts have equal transcripts.
-/

namespace KernelProbe.Transcript

/-- The keys of evidence whose values the host picks. -/
def hostKeys : List String :=
  ["pid", "tid", "break", "addr", "released", "child_tid", "waits", "elapsed_us", "fd", "closed",
   "nodename", "release", "version", "machine", "domainname", "residency"]

/-- The fields of report lines that differ from run to run. -/
def runFields : List String := ["run_id", "started_at", "elapsed_us"]

/-- The fields of log events that differ from run to run. -/
def logFields : List String := ["run_id", "ret", "tid", "base", "fd"]

/-- A line without the carriage return that belongs to its line break. -/
def withoutReturn (line : List Char) : List Char :=
  if line.getLast? = some '\r' then line.dropLast else line

/-- The lines of a text. A line break is a line feed with the carriage return in front of it, if
there is one; what follows the last line break is a line unless it is empty. -/
def lines (bytes : List UInt8) : List String :=
  let pieces := Text.splitOn '\n' (Text.decodeLossy bytes).toList
  let ended := pieces.dropLast.map withoutReturn
  let unended := pieces.getLast?.toList.filter (!·.isEmpty)
  (ended ++ unended).map String.ofList

/-- A text without terminal styles, behind the characters of a style that has begun. A style ends
with an `m` and has only digits and semicolons in its bracket; anything else stays. -/
def unstyledFrom (begun : List Char) : List Char → List Char
  | [] => begun
  | c :: rest =>
    if c = '\x1b' then begun ++ unstyledFrom [c] rest
    else if begun.isEmpty then c :: unstyledFrom [] rest
    else if begun.length = 1 then
      if c = '[' then unstyledFrom (begun ++ [c]) rest else begun ++ c :: unstyledFrom [] rest
    else if c.isDigit ∨ c = ';' then unstyledFrom (begun ++ [c]) rest
    else if c = 'm' then unstyledFrom [] rest
    else begun ++ c :: unstyledFrom [] rest

/-- A line of text without terminal styles. -/
def unstyled (line : String) : String := String.ofList (unstyledFrom [] line.toList)

/-- What stands in front of the first occurrence of `sep`, and what follows it, if it occurs. -/
def cutAt (sep : List Char) : List Char → Option (List Char × List Char)
  | [] => none
  | c :: rest =>
    if sep.isPrefixOf (c :: rest) then some ([], (c :: rest).drop sep.length)
    else (cutAt sep rest).map fun (front, back) => (c :: front, back)

/-- What follows the indentation of evidence and verdicts. -/
def indented? : List Char → Option (List Char)
  | ' ' :: ' ' :: ' ' :: ' ' :: rest => some rest
  | _ => none

/-- The line that a run begins with, without its name and time. -/
def maskRunLine (line : List Char) : Option (List Char) := do
  let (front, rest) ← cutAt " run ".toList line
  let (_, rest) ← cutAt " at ".toList rest
  let (_, model) ← cutAt " (exec model: ".toList rest
  return front ++ " run * at * (exec model: ".toList ++ model

/-- A line of evidence or of a verdict without what the host picked. -/
def maskDetail (line : List Char) : Option (List Char) := do
  let (key, _) ← cutAt ": ".toList (← indented? line)
  if String.ofList key ∈ hostKeys then return "    ".toList ++ key ++ ": *".toList
  else if key = "verdict".toList ∧ '(' ∈ line then
    return (line.reverse.dropWhile (· != '(')).reverse ++ "*us)".toList
  else none

/-- A line of text without what differs from run to run. -/
def maskText (line : String) : String :=
  String.ofList (((maskRunLine line.toList).or (maskDetail line.toList)).getD line.toList)

/-- A pair of evidence without what the host picked. -/
def maskPair : Json → Json
  | .array [.string key, value] =>
    .array [.string key, if key ∈ hostKeys then .string maskMark else value]
  | pair => pair

/-- A field of a report line without what differs from run to run. -/
def maskField : String × Json → String × Json
  | ("evidence", .array pairs) => ("evidence", .array (pairs.map maskPair))
  | (name, value) => (name, if name ∈ runFields then .string maskMark else value)

/-- A line of standard output: an object without what differs, or a text. -/
def maskLine (line : String) : Json :=
  match (Json.parse? line).filter (Json.canTakeUp 0) with
  | some (.object fields) => .object (fields.map maskField)
  | _ => .string (maskText line)

/-- A field of a log event without what differs from run to run. -/
def maskLogField : String × Json → String × Json
  | (name, value) => (name, if name ∈ logFields && !value.isNull then .string maskMark else value)

/-- A log event as its level and its fields without what differs from run to run; in the format for
people only the level. -/
def maskLog (format : LogFormat) (e : LogEvent) : Json :=
  match format with
  | .json => .array [.string e.level.name, .object (e.fieldsJson.map maskLogField)]
  | .pretty => .string e.level.name

end KernelProbe.Transcript
