/-
  The command line program: the command line on the files, the standard input
  and the environment of the process.
-/
import QuerySql.CommandLine.Run

namespace QuerySql.CommandLine

/-- The failure that a failed reading is reported as. -/
def FileError.ofSystem : IO.Error → FileError
  | .noFileOrDirectory .. => .notFound
  | .inappropriateType _ number details => .system details number.toNat
  | .permissionDenied _ number details => .system details number.toNat
  | _ => .notText

/-- The result of a reading that may fail. -/
def attempt (reading : IO String) : IO (Except FileError String) := do
  try return .ok (← reading) catch e => return .error (.ofSystem e)

/-- The directory for the settings of the user. -/
def settingsDirectory : IO (Option String) := do
  match (← IO.getEnv "XDG_CONFIG_HOME").filter (·.startsWith "/") with
  | some directory => return some directory
  | none => return (← IO.getEnv "HOME").map (· ++ "/.config")

/-- The process that the program runs in. -/
def processHost : Host IO where
  readFile path := attempt (IO.FS.readFile path)
  readInput := attempt do (← IO.getStdin).readToEnd
  environmentSettings := IO.getEnv "TSQL_CRITERIA_CONFIG"
  usualSettings := do
    let some directory ← settingsDirectory | return none
    let path := directory ++ "/" ++ usualSettingsPath
    match ← attempt (IO.FS.readFile path) with
    | .ok _ => return some path
    | .error e => return if e = .notFound then none else some path

end QuerySql.CommandLine

/-- Runs the command line on the arguments of the process. -/
def main (arguments : List String) : IO UInt32 := do
  let result ← QuerySql.CommandLine.outcome QuerySql.CommandLine.processHost arguments
  IO.print result.output
  IO.eprint result.errors
  return result.status.toUInt32
