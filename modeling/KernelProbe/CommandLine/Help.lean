import KernelProbe.CommandLine.Palette
import KernelProbe.Text.Split

/-!
# Help

What the program says of itself: its version, and its options with their environment variables,
their usual values and, where there are few, all of their values. What an option is for stands below
it on a line of its own.
-/

namespace KernelProbe.CommandLine

/-- The version of the program. -/
def version : String := "0.1.0"

/-- The line that tells the version. -/
def versionText : String := "sysprobe " ++ version ++ "\n"

/-- What an option is for. -/
def purpose : Setting → String
  | .execModel => "What a successful execve does on the kernel under test"
  | .execTarget => "Existing executable used as the execve target"
  | .execArgs => "argv handed to the execve target"
  | .missingPath => "Path that must not exist"
  | .tidModel => "How the initial thread's tid relates to the pid"
  | .mapLength => "Mapping lengths for the memory triads (decimal or 0x-prefixed hex)"
  | .pageSize => "Page size of the kernel under test"
  | .waitTimeoutMs => "Bound on the mismatching futex wait"
  | .joinTimeoutMs => "Bound on waiting for the clone child to exit"
  | .only => "Run only these probes or groups"
  | .skip => "Never run these probes or groups"
  | .format => "Audit log format on stdout"
  | .failOnError => "Exit with status 1 when any probe failed"
  | .list => "Print the probe plan and exit without touching the kernel"

/-- The usual values of an option. -/
def usualValues : Setting → List String
  | .execModel => ["spawn"]
  | .execTarget => ["/usr/statx"]
  | .execArgs => ["ls", "-l", "-a"]
  | .missingPath => ["/this-program-does-not-exist"]
  | .tidModel => ["matches-pid"]
  | .pageSize => ["4096"]
  | .format => ["text"]
  | _ => []

/-- A remark in brackets, unless there is nothing to say. -/
def remark (label : String) (values : List String) (separator : String) : String :=
  if values.isEmpty then ""
  else " [" ++ label ++ Text.join separator values ++ "]"

/-- What stands in front of a line that says what an option is for. -/
def indentation : String := "          "

/-- A text with its lines indented. -/
def paragraph (text : String) : String :=
  let lines := Text.splitOn '\n' text.toList
  String.join (lines.map fun line => indentation ++ String.ofList line ++ "\n")

/-- How an option is named in the help. -/
def heading (s : Switch) : String :=
  let letter := match s with
    | .question q => Palette.literal.enclose (String.ofList ['-', q.letter]) ++ ", "
    | .setting _ => "    "
  "  " ++ letter ++ styledName s ++ "\n"

/-- What the help says of an option. -/
def explanation (env : List (String × String)) : Switch → String
  | .question .help => "Print help"
  | .question .version => "Print version"
  | .setting s =>
    let names := s.envName?.toList.map fun name => name ++ "=" ++ (env.lookup name).getD ""
    let choices := if s.arity = .flag then [] else s.choices
    purpose s ++ remark "env: " names "" ++ remark "default: " (usualValues s) " "
      ++ remark "possible values: " choices ", "

/-- The help, with terminal styles. -/
def helpText (env : List (String × String)) : String :=
  "Syscall conformance harness for Linux-compatible kernels\n\n"
    ++ usageLine [] ++ "\n\n" ++ Palette.heading.enclose "Options:" ++ "\n"
    ++ String.join (Switch.all.map fun s => heading s ++ paragraph (explanation env s))

end KernelProbe.CommandLine
