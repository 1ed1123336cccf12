import StyleRules.Handler
import StyleRules.Registry.Catalogue
import Std.Time.DateTime

/-!
# Command line

Answers the event in the file named by the first argument, or a sample event, and prints the answer as JSON.
What can be read are the files of the working directory, the event, and the configuration file that the event
or the environment names.  References name what the modules of the library offer, and the stylesheets that can be
run are the common ones.
-/

namespace StyleRules.Main

/-- The text of a file, if there is one that can be read. -/
def readText? (path : String) : IO (Option String) := do
  try
    return some (← IO.FS.readFile path)
  catch _ => return none

/-- The texts of the files below a directory, as far as they can be read.  Links to directories are not
followed, so the walk ends. -/
partial def readTree (path : String) : IO (List (String × String)) := do
  let mut found : List (String × String) := []
  for entry in ← (System.mkFilePath [path]).readDir do
    let inner := entry.path.toString
    if (← entry.path.symlinkMetadata).type == .dir then
      found := found ++ (← readTree inner)
    else
      found := found ++ ((← readText? inner).map fun text => (inner, text)).toList
  return found

/-- Read the files at some paths, as far as they can be read. -/
def readNamed (paths : List String) : IO (List (String × String)) := do
  let found ← paths.mapM fun path => do
    return (← readText? path).map fun text => (path, text)
  return found.filterMap id

/-- The variables of the environment, as the system lists them. -/
def readEnvironment : IO (List (String × String)) := do
  let listed ← readText? "/proc/self/environ"
  return (Text.parts '\x00' (listed.getD "")).filterMap fun entry =>
    match Text.parts '=' entry with
    | name :: value :: more => some (name, Text.join "=" (value :: more))
    | _ => none

/-- The configuration file that an event names. -/
def namedConfiguration (text : String) : List String :=
  match (Json.read text).bind (Value.option · "config_file") with
  | .ok (.str path) => [path]
  | _ => []

/-- The surroundings of this process. -/
def readHost (arguments : List String) : IO Host := do
  let here ← IO.currentDir
  let directory := (Path.ofString here.toString).steps
  let environment ← readEnvironment
  let events ← readNamed (arguments.take 1)
  let configurations := events.flatMap fun (_, text) => namedConfiguration text
  let named ← readNamed (configurations ++ (environment.lookup Handler.configVariable).toList)
  let files ← readTree here.toString
  let placed := (events ++ named ++ files).map fun (path, text) => ((Path.ofString path).resolve directory, text)
  return Catalogue.surroundings directory placed environment

/-- The present moment in universal time. -/
def presentMoment : IO String := do
  let elapsed ← Std.Time.Timestamp.now
  let time := Std.Time.PlainDateTime.ofWallTime (.ofDuration elapsed.toDurationSinceUnixEpoch)
  let moment : Moment := {
    date := ⟨time.year.toInt.toNat, time.month.toNat, time.day.toNat⟩
    hour := time.hour.toNat
    minute := time.minute.toNat
    second := time.second.toNat
    micro := time.nanosecond.toNat / 1000
    offset := some 0 }
  return moment.textWith "T"

/-- Answer the event that the arguments name, and print the answer. -/
def run (arguments : List String) : IO UInt32 := do
  let host ← readHost arguments
  let outcome := (Handler.answerArguments host (← presentMoment) arguments).bind Handler.printed
  match outcome with
  | .ok text =>
    IO.println text
    return 0
  | .error reason =>
    IO.eprintln (reason.kind ++ ": " ++ reason.message)
    return 1

end StyleRules.Main

def main (arguments : List String) : IO UInt32 := StyleRules.Main.run arguments
