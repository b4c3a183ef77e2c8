import KernelProbe.CommandLine.Size
import KernelProbe.CommandLine.Usage

/-!
# Reading the command line

Arguments are read from left to right. An option may carry its value behind an equals sign, or the
next argument is its value; then the value is looked at only when the next option is accepted or the
arguments end. Options that the arguments do not name are taken from the environment.
-/

namespace KernelProbe.CommandLine

/-- The value of a name out of a fixed set. -/
def oneOf {α : Type} (s : Setting) (names : List (String × α)) (value : String) :
    Except Usage α :=
  match names.lookup value with
  | some a => .ok a
  | none => .error (.invalidValue s value)

/-- The size that a value spells. -/
def size (s : Setting) (value : String) : Except Usage UInt64 :=
  (parseSize value).mapError fun e => .valueValidation s value (sizeMessage value e)

/-- The decimal number that a value spells. -/
def decimal (s : Setting) (value : String) : Except Usage UInt64 :=
  (parseNumber 10 value.toList).mapError fun e => .valueValidation s value e.message

/-- The pieces of a value between its commas. -/
def pieces (value : String) : List String := (Text.splitOn ',' value.toList).map String.ofList

/-- Set an option to a value; the value of a flag is a truth value. -/
def assign (o : Options) (s : Setting) (value : String) : Except Usage Options :=
  match s with
  | .execModel => do
    return { o with execModel := ← oneOf s [("replace", .replace), ("spawn", .spawn)] value }
  | .execTarget => .ok { o with execTarget := value }
  | .execArgs => .ok { o with execArgs := some (o.execArgs.getD [] ++ pieces value) }
  | .missingPath => .ok { o with missingPath := value }
  | .tidModel => do
    let names := [("matches-pid", .matchesPid), ("distinct", .distinct), ("unchecked", .unchecked)]
    return { o with tidModel := ← oneOf s names value }
  | .mapLength => do
    return { o with mapLengths := o.mapLengths ++ (← (pieces value).mapM (size s)) }
  | .pageSize => do return { o with pageSize := ← size s value }
  | .waitTimeoutMs => do return { o with waitTimeoutMs := some (← decimal s value) }
  | .joinTimeoutMs => do return { o with joinTimeoutMs := some (← decimal s value) }
  | .only => .ok { o with only := o.only ++ pieces value }
  | .skip => .ok { o with skip := o.skip ++ pieces value }
  | .format => do
    return { o with format := ← oneOf s [("text", .text), ("jsonl", .jsonl)] value }
  | .failOnError => do
    return { o with failOnError := ← oneOf s [("true", true), ("false", false)] value }
  | .list => do return { o with list := ← oneOf s [("true", true), ("false", false)] value }

/-- How far the arguments have been read. -/
structure Reading where
  /-- What they say so far. -/
  options : Options := {}
  /-- The options that have been accepted, in order. -/
  given : List Setting := []
  /-- An option that still has to be accepted, with its value if that has come. -/
  pending : Option (Setting × Option String) := none

namespace Reading

/-- Whether an option must not come again. -/
def isSpent (r : Reading) (s : Setting) : Bool := s.arity != .many && r.given.contains s

/-- Accept an option with a value. -/
def accept (r : Reading) (s : Setting) (value : String) : Except Usage Reading := do
  if r.isSpent s then throw (.argumentConflict s)
  return ⟨← assign r.options s value, r.given ++ [s], none⟩

/-- Accept the pending option. -/
def settle (r : Reading) : Except Usage Reading :=
  match r.pending with
  | none => .ok r
  | some (s, none) => .error (.invalidValue s "")
  | some (s, some value) => accept r s value

/-- The options that were named so far. A pending one counts if it has a value, whatever that is; if
it must not come again, it takes its first mention away as well. -/
def named (r : Reading) : List Switch :=
  let settings := match r.pending with
    | some (s, some _) => if r.isSpent s then r.given.erase s else r.given ++ [s]
    | _ => r.given
  settings.map .setting

/-- An argument with two hyphens and a name that means nothing. -/
def unknownName (r : Reading) (name : String) : Usage :=
  .unknownArgument ("--" ++ name) (Text.mostSimilar? Switch.longName name Switch.all) r.named

/-- An argument of another form that means nothing. -/
def unknown (argument : String) : Usage := .unknownArgument argument none []

/-- A value for something that takes none. -/
def superfluous (r : Reading) (switch : Switch) (value : String) : Usage :=
  .tooManyValues switch value (r.given.map .setting)

end Reading

/-- What an argument is. -/
inductive Argument where
  /-- Two hyphens, behind which no options come. -/
  | stop
  /-- An option's name, with a value if it carries one. -/
  | long (name : String) (value : Option String)
  /-- One-letter names, of which only the first counts. -/
  | short (letter : Char)
  /-- Anything else. -/
  | plain
deriving DecidableEq, Repr

/-- Sort an argument. -/
def Argument.of (arg : String) : Argument :=
  match arg.toList with
  | ['-', '-'] => .stop
  | '-' :: '-' :: rest =>
    let name := rest.takeWhile (· != '=')
    match rest.dropWhile (· != '=') with
    | [] => .long (String.ofList name) none
    | _ :: value => .long (String.ofList name) (some (String.ofList value))
  | '-' :: c :: _ => .short c
  | _ => .plain

/-- Answer a question, once what comes before it has been accepted. -/
def answer (r : Reading) (q : Question) : Except Usage Reading := do
  let _ ← r.settle
  throw (match q with
    | .help => .displayHelp
    | .version => .displayVersion)

/-- Read an argument that names something. -/
def readLong (r : Reading) (name : String) (value : Option String) : Except Usage Reading :=
  match Switch.ofLongName? name, value with
  | none, _ => .error (r.unknownName name)
  | some (.question q), none => answer r q
  | some (.setting s), none =>
    if s.arity = .flag then do (← r.settle).accept s "true"
    else do return { ← r.settle with pending := some (s, none) }
  | some (.question q), some value => .error (r.superfluous (.question q) value)
  | some (.setting s), some value =>
    if s.arity = .flag then .error (r.superfluous (.setting s) value)
    else do (← r.settle).accept s value

/-- Read an argument of one-letter names; the first one ends the reading, whatever it is. -/
def readShort (r : Reading) (letter : Char) : Except Usage Reading :=
  match Question.ofLetter? letter with
  | some q => answer r q
  | none => .error (Reading.unknown (String.ofList ['-', letter]))

/-- Read arguments in turn. -/
def readArguments (r : Reading) : List String → Except Usage Reading
  | [] => r.settle
  | arg :: rest =>
    match r.pending, Argument.of arg with
    | some (s, none), kind =>
      if s.takesHyphens ∨ kind = .plain then
        readArguments { r with pending := some (s, some arg) } rest
      else readOther r kind arg rest
    | _, kind => readOther r kind arg rest
where
  /-- Read an argument that is not the value of the option before it. -/
  readOther (r : Reading) (kind : Argument) (arg : String) (rest : List String) :
      Except Usage Reading :=
    match kind with
    | .plain => .error (Reading.unknown arg)
    | .stop => match rest with
      | [] => r.settle
      | next :: _ => .error (Reading.unknown next)
    | .long name value => do readArguments (← readLong r name value) rest
    | .short letter => do readArguments (← readShort r letter) rest

/-- Take options that were not given from the environment. -/
def readEnvironment (env : List (String × String)) (r : Reading) : Except Usage Options :=
  Setting.all.foldlM
    (fun o s =>
      if s ∈ r.given then .ok o
      else match s.envName?.bind fun name => env.lookup name with
        | some value => assign o s value
        | none => .ok o)
    r.options

/-- Read the arguments of the program, and its environment for the rest. -/
def parse (args : List String) (env : List (String × String)) : Except Usage Options := do
  readEnvironment env (← readArguments {} args)

end KernelProbe.CommandLine
