import DashboardFilters.CommandLine.Run
import Std.Time.DateTime.Timestamp

namespace DashboardFilters.CommandLine

def contentOf (path : String) : IO (Option String) := do
  try return some (← IO.FS.readFile path)
  catch _ => return none

def Invocation.paths (invocation : Invocation) : List String :=
  defaultConfigPath :: [Parameter.dataset, .filters, .config].filterMap invocation.text?

/-- The variables that a run may look at, when it finds some files. -/
def variableNames (files : List (String × String)) : List String :=
  environmentVariable :: files.flatMap fun file =>
    (Config.references file.2.toList).map String.ofList

def presentMoment : IO Calendar.Instant := do
  let nanoseconds := (← Std.Time.Timestamp.now).toNanosecondsSinceUnixEpoch.val
  return ⟨.ofTimestamp (nanoseconds / 1000000000) (nanoseconds % 1000000000).toNat (by omega), .utc⟩

def Invocation.surroundings (invocation : Invocation) : IO Surroundings := do
  let files ← invocation.paths.filterMapM fun path => do
    return (← contentOf path).map fun content => (path, content)
  let known ← (variableNames files).filterMapM fun name => do
    return (← IO.getEnv name).map fun value => (name, value)
  return {
    files := fun path => files.lookup path
    variableOf := fun name => known.lookup name
    now := ← presentMoment }

end DashboardFilters.CommandLine

open DashboardFilters.CommandLine in
/-- Exits with the status of the run, or with two if the arguments are wrong. -/
def main (arguments : List String) : IO UInt32 := do
  match Invocation.parse arguments with
  | .ok invocation =>
      let outcome := invocation.run (← invocation.surroundings)
      (← IO.getStdout).putStr outcome.output
      (← IO.getStderr).putStr outcome.errors
      return outcome.status.toUInt32
  | .error error =>
      if error.isRequest then
        (← IO.getStdout).putStr (line error.message)
        return 0
      else
        (← IO.getStderr).putStr (line error.message)
        return 2
