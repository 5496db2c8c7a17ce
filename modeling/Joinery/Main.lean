import Joinery.Command.Run
import Std.Time.Format

/-!
# The program

Reads the command line, the environment and the configuration file, runs the
command and prints its report. The program has no network of its own: every
exchange with a service is lost.
-/

namespace Joinery.Program

/-- The server of a program without a network. -/
def offline : Server := fun _ => ⟨0, .lost, none⟩

/-- The variables that are looked up. -/
def variableNames : List String :=
  ["HOME", "XDG_CONFIG_HOME", "ATELIER_GENERATION_URL", "ATELIER_STORE_URL",
    "ATELIER_REQUEST_TIMEOUT_SECS", "ATELIER_MAX_RETRIES", "ATELIER_DEFAULT_TIER"]

/-- The environment of the program. -/
def readEnvironment : IO Environment := do
  let found ← variableNames.mapM fun name => return (name, ← IO.getEnv name)
  return fun name => (found.lookup name).join

/-- What is found at a path. -/
def findFile (path : String) : IO ConfigFile := do
  try
    return .text (← IO.FS.readFile path)
  catch
    | .noFileOrDirectory .. => return .missing
    | _ => return .unreadable

/-- Writes a file and makes the directories above it; says whether that went
well. -/
def writeFile (path text : String) : IO Bool := do
  let above := "/".intercalate (path.splitOn "/").dropLast
  try
    if above ≠ "" then IO.FS.createDirAll above
    IO.FS.writeFile path text
    return true
  catch _ => return false

/-- The time in UTC. -/
def readClock : IO Timestamp := do
  let instant ← Std.Time.Timestamp.now
  let t := Std.Time.PlainDateTime.ofWallTime (instant.toWallTime .zero)
  let date : Date := ⟨t.date.year.toInt, t.date.month.val.toNat, t.date.day.val.toNat⟩
  return ⟨date, 60 * t.time.hour.val.toNat + t.time.minute.val.toNat,
    t.time.second.val.toNat, t.time.nanosecond.val.toNat⟩

/-- Prints a report and returns its status. -/
def present (report : Report) : IO UInt32 := do
  IO.print report.output
  IO.eprint report.complaint
  return UInt32.ofNat report.exit

/-- Runs an invocation. -/
def runInvocation (invocation : Invocation) : IO UInt32 := do
  let environment ← readEnvironment
  let file ← match invocation.path? environment with
    | some path => findFile path
    | none => pure .missing
  let now ← readClock
  let (ending, _) :=
    invocation.run environment file (Config.configurator .standard offline) now ([] : History)
  match ending with
  | .report report => present report
  | .write path text report => present (report (← writeFile path text))

end Joinery.Program

def main (words : List String) : IO UInt32 :=
  match Joinery.CommandLine.read words with
  | .invoke invocation => Joinery.Program.runInvocation invocation
  | .version => Joinery.Program.present .version
  | .refused => Joinery.Program.present .refused
