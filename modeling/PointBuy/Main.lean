import PointBuy.CommandLine.Run
import Std.Time.DateTime.Timestamp

/-!
# The program

Reads the variables of the environment, the clock, and the files that a request needs, and writes
the outcome of the run.
-/

namespace PointBuy.CommandLine

/-- The variables that the settings know. -/
def variableNames : List String :=
  ["GURPS_CORE_ATTRIBUTES", "GURPS_PRESENTATION_TWEAKS", "GURPS_REQUIRE_DATA_EXTENSION",
    "GURPS_ENABLE_PERFORMANCE_LOGGING", "GURPS_LOGGING_USE_STRUCTURED",
    "GURPS_LOGGING_ENABLE_CONSOLE", "GURPS_LOGGING_MIN_LEVEL",
    "GURPS_LOGGING_INCLUDE_SOURCE_CONTEXT"]

/-- The environment of the program. -/
def readEnvironment : IO Environment :=
  variableNames.filterMapM fun name => do
    return (← IO.getEnv name).map fun value => (name, value)

/-- What stands at a path. -/
def readEntry (path : String) : IO FileEntry := do
  let start ← IO.monoNanosNow
  try
    let bytes ← IO.FS.readBinFile path
    return .file bytes ((← IO.monoNanosNow) - start)
  catch
    | .noFileOrDirectory .. => return .missing
    | .inappropriateType _ 20 _ => return .insideFile
    | .inappropriateType _ 21 _ => return .directory
    | e => throw e

/-- What stands at the paths that a request needs. Nothing stands at others. -/
def readFolder (request : Request) : IO Folder := do
  let entries ← request.files.mapM fun path => return (path, ← readEntry path)
  return fun path => (entries.lookup path).getD .missing

end PointBuy.CommandLine

open PointBuy CommandLine in
/-- Runs the program and gives the code that it ends with. -/
def main (words : List String) : IO UInt32 := do
  let folder ← match Request.ofWords words with
    | .ok request => readFolder request
    | .error _ => pure fun _ => .missing
  let now ← Std.Time.Timestamp.now
  let seconds := now.toSecondsSinceUnixEpoch.val.toNat
  let outcome := run "pointbuy" words (← readEnvironment) folder seconds
  IO.print outcome.output
  IO.eprint outcome.errors
  return outcome.code.toUInt32
