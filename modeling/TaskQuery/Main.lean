/-
  TaskQuery — the program.

  Only what lies on the way to the files that a command may use is looked at, and
  only what the command changed is written.
-/
import Std.Time.DateTime.Timestamp
import Std.Time.Zoned.Database
import TaskQuery.Command.Prompt
import TaskQuery.Command.Run

namespace TaskQuery.Program

/-! ## Looking at the surroundings -/

/-- The current instant. -/
def currentInstant : IO Instant := do
  let now ← Std.Time.Timestamp.now
  return ⟨now.val.second.val, now.val.nano.val.toNat⟩

/-- The time zone of the machine, or universal time if it is not known. -/
def currentZone : IO Zone :=
  try
    let rules ← Std.Time.Database.defaultGetLocalZoneRules
    return ⟨fun i => (rules.timezoneAt (.ofSecondsSinceUnixEpoch ⟨i.second⟩)).offset.second.val⟩
  catch _ => return .universal

/-- The variables of the environment that matter. -/
def readEnvironment : IO Environment := do
  let names :=
    ["HOME", "NO_COLOR", "TF_CONFIG", "TF_TASKS_FILE", "XDG_CONFIG_HOME", "XDG_DATA_HOME"]
  let pairs ← names.mapM fun name => return (name, ← IO.getEnv name)
  return pairs.filterMap fun (name, value) => value.map (name, ·)

/-- The path of a place. -/
def pathOf (place : Place) : String :=
  "/" ++ "/".intercalate place

/-- What is at a place. -/
def observe (place : Place) : IO (Option Entry) :=
  try
    return some (Entry.ofBytes (← IO.FS.readBinFile (pathOf place)))
  catch
    | .noFileOrDirectory .. => return none
    | .inappropriateType .. => return some .directory
    | _ => return none

/-- The places on the way along a path. -/
def placesTo (base : Place) (path : String) : List Place :=
  match Path.ofText path with
  | .ok path =>
    (path.names.scanl Place.after (if path.fromRoot then [] else base)).filter (· ≠ [])
  | .error _ => []

/-- The files with what is on the way along a path. -/
def look (files : Files) (path : String) : IO Files :=
  (placesTo files.base path).foldlM (fun files place => do
    match ← observe place with
    | some entry => return files.put place entry
    | none => return files) files

/-- The machine on which an invocation runs. -/
def machineFor (invocation : Invocation) (environment : Environment) : IO Machine := do
  let base := ((← IO.currentDir).toString.splitOn "/").filter (· ≠ "")
  let now ← currentInstant
  let zone ← currentZone
  let files ← (settingsPath? environment).toList.foldlM look ⟨[], base⟩
  let m : Machine := { files, environment, now, zone }
  let named := match m.settings with
    | .ok s => invocation.file <|> s.tasksFile
    | .error _ => invocation.file
  let files ← (named <|> tasksPath? environment).toList.foldlM look files
  return { m with files }

/-! ## Acting -/

/-- Writes what was changed. -/
def writeChanges (before after : Files) : IO Unit := do
  let changes := after.entries.take (after.entries.length - before.entries.length)
  for (place, entry) in changes.reverse do
    match entry with
    | .text content => IO.FS.writeFile (pathOf place) content
    | .directory => IO.FS.createDirAll (pathOf place)
    | .bytes => pure ()

/-- Prints an outcome. -/
def report (json : Bool) (o : Outcome) : IO Unit := do
  (← IO.getStdout).putStr o.output
  (← IO.getStdout).flush
  (← IO.getStderr).putStr (o.errorText json)

/-- Answers lines until one asks to leave. -/
partial def converse (session : Session) (input : IO.FS.Stream) : IO Unit := do
  (← IO.getStderr).putStr "filter: "
  let line ← input.getLine
  if line = "" then return
  let query := String.ofList (line.toList.filter fun key => !isSubmitKey key)
  if Session.isExit query then return
  report session.context.json (session.answer query (← currentInstant))
  converse session input

/-- Runs an invocation on a machine, and gives the exit status. -/
def execute (m : Machine) (i : Invocation) : IO Nat := do
  let input ← IO.getStdin
  let typed : Option (List (String × Instant)) := if ← input.isTty then some [] else none
  let (o, files) := { m with typed }.run i
  report i.json o
  writeChanges m.files files
  if i.command = .interactive ∧ o.fault = none then
    match m.settings with
    | .ok s => match m.session i s with
      | .ok session => converse session input
      | .error _ => pure ()
    | .error _ => pure ()
  return o.exitStatus

/-- What is said about a command line that is refused. -/
def usageText : String :=
  "Usage: tf [OPTIONS] [COMMAND]\nCommands: list, check, interactive, config, completions, help\n"

/-- Tells that a command line is refused, or what it asks for instead. -/
def refuse (fault : UsageFault) : IO Nat := do
  match fault with
  | .helpRequested => (← IO.getStdout).putStr usageText
  | .versionRequested => (← IO.getStdout).putStr "tf\n"
  | _ => (← IO.getStderr).putStr usageText
  return fault.exitStatus

end TaskQuery.Program

/-- The program: it runs what the command line asks for. -/
def main (arguments : List String) : IO UInt32 := do
  let environment ← TaskQuery.Program.readEnvironment
  let fileVariable := environment.lookup "TF_TASKS_FILE"
  let status ← match TaskQuery.Invocation.ofArguments fileVariable arguments with
    | .ok i => do TaskQuery.Program.execute (← TaskQuery.Program.machineFor i environment) i
    | .error fault => TaskQuery.Program.refuse fault
  return status.toUInt32
