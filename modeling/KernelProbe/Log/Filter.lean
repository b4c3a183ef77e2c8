import KernelProbe.Log.Event
import KernelProbe.Log.Pattern
import KernelProbe.Text.Number
import KernelProbe.Text.Split

/-!
# Log filters

A filter is a list of directives with commas between them. A directive is a level, or it says which
events it is about and may give a level behind an equals sign: the start of their targets, and in
square brackets the name of a span around them and in braces a field that they have. So
`target[span{field=value}]=level` has every part that there is. A directive about spans, or about
the value of a field, which only spans can have, decides on no event, because the program opens no
spans.

Of the directives about an event the most specific decides; it lets through what matters at least as
much as its level. A filter without directives lets errors through.
-/

namespace KernelProbe

/-- What a field of a directive asks for. -/
structure FieldMatch where
  /-- The name of the field. -/
  name : String
  /-- Whether it is to have a certain value. -/
  hasValue : Bool := false
deriving DecidableEq, Repr

/-- What a directive lets through. -/
structure LogDirective where
  /-- The start of the targets that it is about; all of them if there is none. -/
  target : Option String := none
  /-- The name of the span that it is about. -/
  span : Option String := none
  /-- The field that events are to have. -/
  field : Option FieldMatch := none
  /-- The greatest rank that it lets through. -/
  maxRank : Nat := LogLevel.trace.rank
deriving DecidableEq, Repr

/-! ## Reading directives -/

/-- Why a text is no directive. -/
inductive DirectiveError where
  /-- It is not written as directives are. -/
  | malformed
  /-- One of its parts begins or ends inside a character. -/
  | splitCharacter
deriving DecidableEq, Repr

/-- Read a field, with the value that it is to have behind an equals sign. -/
def FieldMatch.ofText? (text : List Char) : Option FieldMatch :=
  match Text.splitOn '=' text with
  | name :: value :: _ =>
    if Pattern.isValid value then some ⟨String.ofList name, true⟩ else none
  | _ => if text.isEmpty then none else some ⟨String.ofList text, false⟩

namespace LogDirective

/-- The levels by name, with the rank that each lets through. -/
def ranks : List (String × Nat) :=
  [("off", 0), ("error", 1), ("warn", 2), ("info", 3), ("debug", 4), ("trace", 5)]

/-- The rank that a level lets through: a number, or a name in letters of either case. -/
def rank? (text : List Char) : Option Nat :=
  match parseNumber 10 text with
  | .ok n => if n ≤ 5 then some n.toNat else none
  | .error _ => ranks.lookup (String.ofList text).toLower

/-- Whether a directive may start with a character. -/
def startsWell (c : Char) : Bool := Text.isAlphanumeric c || c == '-' || c == ':' || c == '_'

/-- What stands behind the first bytes of a text, unless they end inside a character. -/
def behindBytes? : Nat → List Char → Option (List Char)
  | 0, text => some text
  | _, [] => none
  | n, c :: rest => if c.utf8Size ≤ n then behindBytes? (n - c.utf8Size) rest else none

/-- How many bytes a text takes. -/
def byteCount (text : List Char) : Nat := (text.map Char.utf8Size).foldr (· + ·) 0

/-- A directive as it stands between two commas. Its parts are found in the text without blanks at
either end, but by their places they are cut out of the whole text, so that blanks in front shift
every part. Places are counted in bytes, so that blanks of several bytes may shift a part to a place
inside a character. -/
structure Source where
  /-- The whole text. -/
  whole : List Char
  /-- The text without blanks at either end. -/
  trimmed : List Char

namespace Source

/-- What stands behind the place of a character. -/
def behind (s : Source) (start : Nat) : Except DirectiveError (List Char) :=
  match behindBytes? (byteCount (s.trimmed.take start)) s.whole with
  | some text => .ok text
  | none => .error .splitCharacter

/-- The part between the places of two characters. -/
def cut (s : Source) (start stop : Nat) : Except DirectiveError (List Char) := do
  let (text, rest) := (← s.behind start, ← s.behind stop)
  return text.take (text.length - rest.length)

/-- The first place from `start` on that holds one of the given characters. -/
def find (s : Source) (start : Nat) (marks : List Char) : Except DirectiveError Nat :=
  match (s.trimmed.drop start).findIdx? (marks.contains ·) with
  | some n => .ok (start + n)
  | none => .error .malformed

/-- Read what follows the brackets: nothing, or a level behind an equals sign. -/
def readLevel (s : Source) (start : Nat) (d : LogDirective) :
    Except DirectiveError LogDirective :=
  match s.trimmed.drop start with
  | [] => .ok d
  | '=' :: _ => do
    let level ← s.behind (start + 1)
    if level.isEmpty then return d
    match rank? level with
    | some n => return { d with maxRank := n }
    | none => throw .malformed
  | _ => .error .malformed

/-- Read what stands in brackets: the name of a span, a field in braces, or both. -/
def readSpan (s : Source) (start : Nat) (d : LogDirective) :
    Except DirectiveError LogDirective := do
  let stop ← s.find start [']', '\x7b']
  let name ← s.cut start stop
  if s.trimmed[stop]? = some ']' then
    s.readLevel (stop + 1) { d with span := some (String.ofList name) }
  else
    let close ← s.find (stop + 1) ['\x7d']
    let some field := FieldMatch.ofText? (← s.cut (stop + 1) close) | throw .malformed
    if s.trimmed[close + 1]? ≠ some ']' then throw .malformed
    let span := if name.isEmpty then none else some (String.ofList name)
    s.readLevel (close + 2) { d with span, field := some field }

/-- Read a directive. A level alone is about all events, and a target without a level lets
everything through. -/
def read (s : Source) : Except DirectiveError LogDirective :=
  match s.trimmed with
  | [] => .error .malformed
  | '[' :: _ => s.readSpan 1 {}
  | c :: _ =>
    if !startsWell c then .error .malformed
    else match s.trimmed.findIdx? (['=', '['].contains ·) with
      | none => match rank? s.whole with
        | some n => .ok { maxRank := n }
        | none => .ok { target := some (String.ofList s.whole) }
      | some stop => do
        let d : LogDirective := { target := some (String.ofList (← s.cut 0 stop)) }
        if s.trimmed[stop]? = some '=' then s.readLevel stop d else s.readSpan (stop + 1) d

end Source

/-- The directive that a text spells. -/
def ofText (text : List Char) : Except DirectiveError LogDirective :=
  Source.read ⟨text, Text.trim text⟩

end LogDirective

/-! ## Filtering -/

namespace LogDirective

/-- Whether the directive can decide on events at all. -/
def decides (d : LogDirective) : Bool := d.span.isNone && !d.field.any (·.hasValue)

/-- Whether the directive is about an event. -/
def covers (d : LogDirective) (e : LogEvent) : Bool :=
  d.target.all (fun target => target.toList.isPrefixOf e.target.toList)
    && d.field.all (fun field => e.fieldNames.contains field.name)

/-- How specific the directive is, in numbers that count from left to right: whether it names a
target, how long that is, and whether it names a field. -/
def specificity (d : LogDirective) : List Nat :=
  [if d.target.isSome then 1 else 0, (d.target.getD "").utf8ByteSize,
   if d.field.isSome then 1 else 0]

/-- The name of the field, which puts directives that are equally specific in order. -/
def fieldName (d : LogDirective) : String := (d.field.map (·.name)).getD ""

/-- Whether a directive that comes after another one goes before it. -/
def overrides (d before : LogDirective) : Bool :=
  if d.specificity = before.specificity then decide (before.fieldName ≤ d.fieldName)
  else decide (before.specificity < d.specificity)

end LogDirective

/-- Directives in the order in which they were given. -/
abbrev LogFilter := List LogDirective

namespace LogFilter

/-- The filter that is used when none is given or a given one is wrong. -/
def usual : LogFilter := [{ target := some "sysprobe", maxRank := LogLevel.info.rank }]

/-- The environment variable that gives a filter. -/
def envName : String := "RUST_LOG"

/-- The filter that a text spells. -/
def ofText (text : String) : Except DirectiveError LogFilter :=
  let pieces := (Text.splitOn ',' text.toList).filter (!·.isEmpty)
  if pieces.isEmpty then .ok [{ maxRank := LogLevel.error.rank }]
  else pieces.mapM LogDirective.ofText

/-- The filter that an environment gives. One that is not written as filters are is as good as none;
one that would have to be cut inside a character leaves no filter at all. -/
def ofEnv? (env : List (String × String)) : Option LogFilter :=
  match (env.lookup envName).map ofText with
  | some (.ok f) => some f
  | some (.error .splitCharacter) => none
  | some (.error .malformed) | none => some usual

/-- The directive that decides on an event: the most specific one, or the later of two alike. -/
def deciding (f : LogFilter) (e : LogEvent) : Option LogDirective :=
  (f.filter fun d => d.decides && d.covers e).foldl
    (fun best d => if best.all d.overrides then some d else best) none

/-- Whether the filter lets an event through. -/
def allows (f : LogFilter) (e : LogEvent) : Bool :=
  (f.deciding e).any fun d => decide (e.level.rank ≤ d.maxRank)

end LogFilter

end KernelProbe
