import KernelProbe.CommandLine.Console
import KernelProbe.CommandLine.Help
import KernelProbe.CommandLine.Parse
import KernelProbe.Host.CallLog
import KernelProbe.Host.Machine
import KernelProbe.Log.Filter
import KernelProbe.Log.Format
import KernelProbe.Report.PlanTable
import KernelProbe.Session.RunId
import KernelProbe.Session.Standard
import KernelProbe.Text.Terminal

/-!
# Invocations of the program

`Invocation.run` takes the arguments and the environment of the program to the status that its
process ends with and everything that it writes. A run may end early, when `execve` puts another
program in the place of this one; then that program's status and output are the process's.
-/

namespace KernelProbe

/-- How a process that was made for the program ended, and what it wrote. -/
structure Invocation where
  /-- The status that its parent sees. -/
  status : UInt8
  /-- What it wrote to its standard output. -/
  stdout : List UInt8 := []
  /-- What it wrote to its standard error, the diagnostic log aside. -/
  stderr : List UInt8 := []
  /-- The diagnostic log. -/
  log : List LogEvent := []
deriving DecidableEq, Repr

namespace Invocation

/-- The target of the log events of the program itself. -/
def logTarget : String := "sysprobe"

/-- A log event of the program itself. -/
def note (message : String) (fields : List (String × LogValue)) : LogEvent :=
  { level := .info, target := logTarget, message, fields }

/-- The chain of errors when the diagnostic log is set up a second time in one process. -/
def logInstallError : List String :=
  ["Failed to install tracing subscriber",
   "a global default trace dispatcher has already been set"]

/-- The status of a process that could not do what it was asked. -/
def failedStatus : UInt8 := 1

/-- The status of a process that did not understand what it was asked. -/
def usageStatus : UInt8 := 2

/-- The status of a process that could not go on. -/
def crashedStatus : UInt8 := 101

/-- The end of a process whose diagnostic log cannot be set up. -/
def crashed : Invocation :=
  { status := crashedStatus
    stderr := Text.encode "a part of the log filter begins or ends inside a character\n" }

/-- The environment variable that forces terminal styles upon an output that is no terminal. -/
def colorVariable : String := "CLICOLOR_FORCE"

/-- The environment variable that keeps terminal styles out of the help and of reports about a
command line. -/
def plainVariable : String := "NO_COLOR"

/-- Every environment variable that the program looks at. -/
def environment : List String :=
  Setting.all.filterMap Setting.envName?
    ++ [LogFilter.envName, LogFormat.envName, colorVariable, plainVariable]

/-- Whether terminal styles are forced. -/
def colorForced (env : List (String × String)) : Bool :=
  match env.lookup colorVariable with
  | some value => value != "0"
  | none => false

/-- Whether the help and the reports about a command line use terminal styles: they look at whether
a variable is there and not empty. -/
def styled (env : List (String × String)) : Bool :=
  let isSet (name : String) : Bool := (env.lookup name).any (!·.isEmpty)
  isSet colorVariable && !isSet plainVariable

/-- An error with its cause, each line of which is indented. -/
def errorReport (context : String) (cause : HarnessError) : List UInt8 :=
  let lines := (Text.splitOn '\n' cause.message.toList).map fun line => "    " ++ String.ofList line
  Text.encode ("Error: " ++ context ++ "\n\nCaused by:\n" ++ Text.join "\n" lines ++ "\n")

/-- What is written instead of running anything. Where terminal styles are not wanted, nothing that
controls a terminal is written, whoever it comes from. -/
def ofUsage (env : List (String × String)) (usage : CommandLine.Usage) : Invocation :=
  let written (text : String) : List UInt8 :=
    Text.encode (if styled env then text else Text.Terminal.plain text)
  match usage with
  | .displayHelp => { status := 0, stdout := written (CommandLine.helpText env) }
  | .displayVersion => { status := 0, stdout := written CommandLine.versionText }
  | _ => { status := usageStatus, stderr := written usage.report }

/-- The log event about the end of a run. -/
def exiting (s : RunSummary) (status : Int32) : LogEvent :=
  note "Exiting via exit_group"
    [("run_id", .text s.runId), ("passed", .int s.passed), ("failed", .int s.failed),
     ("skipped", .int s.skipped), ("status", .int status.toInt)]

/-- Run a battery on the host. -/
def ofBattery (o : Options) (color : Bool) (stamp : RunStamp) (b : Battery) : Invocation :=
  let run := (b.run stamp.runId stamp.startedAt).runWhile Host.Machine.goesOn Host.Machine.kernel
    Reporter.accepting Host.Machine.start ()
  let console := (run.journal.logWith 1 (o.format.log color)).bytes
  let stderr := run.journal.writtenTo 2
  let log := run.journal.allLogs
  match run.result, run.kernel.loaded with
  | some (.ok summary), _ =>
    let status := summary.exitStatus o.failOnError
    { status := Host.Machine.seenStatus status, stdout := console, stderr
      log := log ++ [exiting summary status, CallLog.ending status] }
  | some (.error e), _ =>
    { status := failedStatus, stdout := console, log
      stderr := stderr ++ errorReport "Probe run aborted: reporter output failed" e }
  | none, some loaded =>
    { status := loaded.status, stdout := console ++ loaded.output, stderr, log }
  | none, none => { status := failedStatus, stdout := console, stderr, log }

/-- What the options ask for. -/
def ofOptions (o : Options) (color : Bool) (stamp : RunStamp) : Invocation :=
  match o.config.requests with
  | .error e =>
    { status := failedStatus, stderr := errorReport "Invalid harness configuration" e }
  | .ok (missing, existing) =>
    let b := Battery.ofRequests o.config missing existing
    if o.list then { status := 0, stdout := Text.encode (b.planText color) }
    else ofBattery o color stamp b

/-- Run the program; its environment also says which part of the diagnostic log is kept. -/
def run (args : List String) (env : List (String × String)) (stamp : RunStamp) : Invocation :=
  match CommandLine.parse args env with
  | .error usage => ofUsage env usage
  | .ok o =>
    match LogFilter.ofEnv? env with
    | none => crashed
    | some filter =>
      let p := ofOptions o (colorForced env) stamp
      let starting := note ("sysprobe v" ++ CommandLine.version ++ " starting...") []
      { p with log := (starting :: p.log).filter filter.allows }

end Invocation

end KernelProbe
