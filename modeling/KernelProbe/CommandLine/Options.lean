import KernelProbe.Session.Config

/-!
# Options

What the command line of the program can say, and the configuration that it stands for. A `Setting`
names an option, its environment variable and how it takes values; a `Switch` is an option or a
`Question` about the program.
-/

namespace KernelProbe

/-- The format of the log of a run. -/
inductive OutputFormat where
  /-- The text log. -/
  | text
  /-- The JSON lines log. -/
  | jsonl
deriving DecidableEq, Repr

/-- The name of a format. -/
def OutputFormat.name : OutputFormat → String
  | text => "text"
  | jsonl => "jsonl"

/-- What the command line says. -/
structure Options where
  /-- What a successful `execve` does. -/
  execModel : ExecModel := .spawn
  /-- An existing program. -/
  execTarget : String := "/usr/statx"
  /-- The arguments for it, unless they are the usual ones. -/
  execArgs : Option (List String) := none
  /-- A path that does not exist. -/
  missingPath : String := "/this-program-does-not-exist"
  /-- How the first thread's id relates to the process id. -/
  tidModel : ThreadIdModel := .matchesPid
  /-- The lengths of the mappings to make; the usual ones if there are none. -/
  mapLengths : List UInt64 := []
  /-- The size of a page. -/
  pageSize : UInt64 := 0x1000
  /-- The bound on the refused futex wait in milliseconds, unless it is the usual one. -/
  waitTimeoutMs : Option UInt64 := none
  /-- The bound on the wait for the clone child in milliseconds, unless it is the usual one. -/
  joinTimeoutMs : Option UInt64 := none
  /-- If there are any, only these probes and groups run. -/
  only : List String := []
  /-- These probes and groups never run. -/
  skip : List String := []
  /-- The format of the log. -/
  format : OutputFormat := .text
  /-- Whether a failed probe counts in the exit status. -/
  failOnError : Bool := false
  /-- Whether to print the plan instead of running it. -/
  list : Bool := false
deriving DecidableEq, Repr

namespace Options

/-- The descriptor that the output group writes to, which keeps its bytes out of JSON lines. -/
def outputFd : OutputFormat → Int32
  | .text => 1
  | .jsonl => 2

/-- The configuration that the options stand for. -/
def config (o : Options) : HarnessConfig :=
  let usual : HarnessConfig := {}
  { execModel := o.execModel
    execTarget := o.execTarget
    execArgv := o.execArgs.getD usual.execArgv
    missingExecPath := o.missingPath
    threadIdModel := o.tidModel
    mapLengths := if o.mapLengths.isEmpty then usual.mapLengths else o.mapLengths
    pageSize := o.pageSize
    waitTimeout := (o.waitTimeoutMs.map fun ms => .ofMillis ms.toNat).getD usual.waitTimeout
    joinTimeout := (o.joinTimeoutMs.map fun ms => .ofMillis ms.toNat).getD usual.joinTimeout
    outputFd := outputFd o.format
    filter := ⟨o.only, o.skip⟩ }

end Options

/-- An option of the command line. -/
inductive Setting where
  /-- What a successful `execve` does. -/
  | execModel
  /-- An existing program. -/
  | execTarget
  /-- The arguments for it. -/
  | execArgs
  /-- A path that does not exist. -/
  | missingPath
  /-- How the first thread's id relates to the process id. -/
  | tidModel
  /-- Lengths of mappings to make. -/
  | mapLength
  /-- The size of a page. -/
  | pageSize
  /-- The bound on the refused futex wait. -/
  | waitTimeoutMs
  /-- The bound on the wait for the clone child. -/
  | joinTimeoutMs
  /-- Probes and groups that alone run. -/
  | only
  /-- Probes and groups that never run. -/
  | skip
  /-- The format of the log. -/
  | format
  /-- Count a failed probe in the exit status. -/
  | failOnError
  /-- Print the plan instead of running it. -/
  | list
deriving DecidableEq, Repr

namespace Setting

/-- How an option takes values. -/
inductive Arity where
  /-- It takes none and may stand once. -/
  | flag
  /-- It takes one and may stand once. -/
  | single
  /-- It takes a list with commas and may stand many times. -/
  | many
deriving DecidableEq, Repr

/-- Every option, in the order in which their environment variables are looked at. -/
def all : List Setting :=
  [.execModel, .execTarget, .execArgs, .missingPath, .tidModel, .mapLength, .pageSize,
   .waitTimeoutMs, .joinTimeoutMs, .only, .skip, .format, .failOnError, .list]

/-- The name of the option behind two hyphens. -/
def longName : Setting → String
  | execModel => "exec-model"
  | execTarget => "exec-target"
  | execArgs => "exec-args"
  | missingPath => "missing-path"
  | tidModel => "tid-model"
  | mapLength => "map-length"
  | pageSize => "page-size"
  | waitTimeoutMs => "wait-timeout-ms"
  | joinTimeoutMs => "join-timeout-ms"
  | only => "only"
  | skip => "skip"
  | format => "format"
  | failOnError => "fail-on-error"
  | list => "list"

/-- What stands for the value of the option; nothing for one that takes none. -/
def placeholder : Setting → String
  | execModel => "EXEC_MODEL"
  | execTarget => "EXEC_TARGET"
  | execArgs => "EXEC_ARGS"
  | missingPath => "MISSING_PATH"
  | tidModel => "TID_MODEL"
  | mapLength => "MAP_LENGTHS"
  | pageSize => "PAGE_SIZE"
  | waitTimeoutMs => "WAIT_TIMEOUT_MS"
  | joinTimeoutMs => "JOIN_TIMEOUT_MS"
  | only => "ONLY"
  | skip => "SKIP"
  | format => "FORMAT"
  | failOnError | list => ""

/-- The environment variable that stands in for the option. -/
def envName? : Setting → Option String
  | execModel => some "SYSPROBE_EXEC_MODEL"
  | execTarget => some "SYSPROBE_EXEC_TARGET"
  | execArgs => some "SYSPROBE_EXEC_ARGS"
  | missingPath => some "SYSPROBE_MISSING_PATH"
  | tidModel => some "SYSPROBE_TID_MODEL"
  | mapLength => some "SYSPROBE_MAP_LENGTHS"
  | pageSize => some "SYSPROBE_PAGE_SIZE"
  | waitTimeoutMs => some "SYSPROBE_WAIT_TIMEOUT_MS"
  | joinTimeoutMs => some "SYSPROBE_JOIN_TIMEOUT_MS"
  | only => some "SYSPROBE_ONLY"
  | skip => some "SYSPROBE_SKIP"
  | format => some "SYSPROBE_FORMAT"
  | failOnError => some "SYSPROBE_FAIL_ON_ERROR"
  | list => none

/-- How the option takes values. -/
def arity : Setting → Arity
  | failOnError | list => .flag
  | execArgs | mapLength | only | skip => .many
  | _ => .single

/-- All values of the option, if there are few. -/
def choices : Setting → List String
  | execModel => ["replace", "spawn"]
  | tidModel => ["matches-pid", "distinct", "unchecked"]
  | format => ["text", "jsonl"]
  | failOnError | list => ["true", "false"]
  | _ => []

/-- Whether a value of the option may look like an option. -/
def takesHyphens (s : Setting) : Bool := s == .execArgs

end Setting

/-- A question about the program itself. -/
inductive Question where
  /-- What its options are. -/
  | help
  /-- What its version is. -/
  | version
deriving DecidableEq, Repr

namespace Question

/-- Every question. -/
def all : List Question := [help, version]

/-- The name of the question behind two hyphens. -/
def longName : Question → String
  | help => "help"
  | version => "version"

/-- The name of the question behind one hyphen. -/
def letter : Question → Char
  | help => 'h'
  | version => 'V'

/-- The question of a letter. -/
def ofLetter? (c : Char) : Option Question := all.find? (·.letter == c)

end Question

/-- What an argument with two hyphens can name. -/
inductive Switch where
  /-- An option. -/
  | setting (s : Setting)
  /-- A question. -/
  | question (q : Question)
deriving DecidableEq, Repr

namespace Switch

/-- Everything that can be named. -/
def all : List Switch := Setting.all.map setting ++ Question.all.map question

/-- The name behind two hyphens. -/
def longName : Switch → String
  | setting s => s.longName
  | question q => q.longName

/-- What stands behind the name for a value, if one is taken. -/
def valueText : Switch → String
  | setting s => if s.arity = .flag then "" else " <" ++ s.placeholder ++ ">"
  | question _ => ""

/-- How it is written as an argument. -/
def text (s : Switch) : String := "--" ++ s.longName ++ s.valueText

/-- What a name stands for. -/
def ofLongName? (name : String) : Option Switch := all.find? (·.longName == name)

end Switch

end KernelProbe
