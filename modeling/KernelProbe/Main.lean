import KernelProbe.CommandLine.Invocation
import Std.Time.DateTime.Timestamp

/-!
# The program

Runs the battery as the command line says: the log of the run goes to standard output, diagnostics
go to standard error. All that is decided here is where the pieces come from and go to.
-/

namespace KernelProbe

/-- The variables of the environment that the program looks at. -/
def readEnvironment : IO (List (String × String)) := do
  let found ← Invocation.environment.mapM fun name => do
    return (← IO.getEnv name).map fun value => (name, value)
  return found.filterMap id

/-- A new stamp for a run. -/
def newStamp : IO RunStamp := do
  let entropy ← IO.getRandomBytes 16
  let now ← Std.Time.Timestamp.now
  return ⟨RunId.ofBytes entropy.toList, Int64.ofInt now.toMillisecondsSinceUnixEpoch.val⟩

/-- Run the program on arguments. -/
def runProgram (args : List String) : IO UInt32 := do
  let env ← readEnvironment
  let ended := Invocation.run args env (← newStamp)
  let stderr ← IO.getStderr
  for event in ended.log do
    stderr.putStrLn (event.render (.ofEnv env))
  stderr.write ⟨ended.stderr.toArray⟩
  let stdout ← IO.getStdout
  stdout.write ⟨ended.stdout.toArray⟩
  stdout.flush
  return ended.status.toUInt32

end KernelProbe

/-- Run the program. -/
def main (args : List String) : IO UInt32 := KernelProbe.runProgram args
