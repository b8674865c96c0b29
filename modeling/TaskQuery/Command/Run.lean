/-
  TaskQuery — running commands.

  The settings are read first.  Settings that cannot be read stop every command
  but those for settings, so that they can be mended.  Then the tasks are loaded,
  if the command needs them: from the file that the command line names, or the one
  that the settings name, or the usual one, which may be missing.

  * `Machine` is what a command finds: files, variables, the instant and the time zone,
    what is typed if there is a terminal, and scripts for shells;
  * `Machine.run` is what an invocation prints, with the files afterwards;
  * `Machine.runArguments` reads the command line first.
-/
import TaskQuery.Arguments.Reading
import TaskQuery.Command.QueryReport
import TaskQuery.Command.Session
import TaskQuery.Command.SettingsReport

namespace TaskQuery

/-- What a command finds. -/
structure Machine where
  /-- The files. -/
  files : Files
  /-- The variables of the environment. -/
  environment : Environment
  /-- The current instant. -/
  now : Instant
  /-- The time zone. -/
  zone : Zone := .universal
  /-- What is typed line by line, and when; none if there is no terminal. -/
  typed : Option (List (String × Instant)) := none
  /-- The scripts with which shells complete commands; how they are made is left open. -/
  completion : Shell → String := fun shell => "# " ++ shell.name ++ "\n"

namespace Machine

/-! ## Preparations -/

/-- The path of the settings file. -/
def settingsPath (m : Machine) : Except StorageFault String :=
  match settingsPath? m.environment with
  | some path => .ok path
  | none => .error .homeless

/-- The settings. -/
def settings (m : Machine) : Except StorageFault Settings := do
  Settings.load m.files (← m.settingsPath)

/-- What concerns every command of an invocation.  Colours are on unless an option,
    a variable or a setting says otherwise. -/
def context (m : Machine) (i : Invocation) (s : Settings) : Context where
  json := i.json
  colors := !i.noColor && (m.environment.nonEmpty? "NO_COLOR").isNone && s.color.getD true
  quiet := i.quiet
  isoDates := s.dateFormat = some "iso"
  now := m.now
  zone := m.zone

/-- The tasks for an invocation. -/
def loadTasks (m : Machine) (i : Invocation) (s : Settings) :
    Except TaskFile.LoadFault (List Task) :=
  match i.file <|> s.tasksFile with
  | some path => TaskFile.load m.files path
  | none =>
    match tasksPath? m.environment with
    | some path => TaskFile.loadOrEmpty m.files path
    | none => .error .homeless

/-! ## Commands -/

/-- The greeting. -/
def greeting : String :=
  "tf - task filter CLI\nUse --help for usage information\n"

/-- The session of an invocation. -/
def session (m : Machine) (i : Invocation) (s : Settings) : Except CommandFault Session := do
  let tasks ← (m.loadTasks i s).mapError .taskFile
  return { context := m.context i s, tasks, limit := (s.limit.getD defaultLimit).val }

/-- What a command for settings prints, with the files afterwards. -/
def runConfig (m : Machine) (ctx : Context) (request : ConfigRequest) : Outcome × Files :=
  match m.settingsPath with
  | .error fault => (.fail (.configuration (.storage fault)), m.files)
  | .ok path =>
    match request with
    | .overview => (showSettings ctx m.files path, m.files)
    | .assign name value => changeSetting ctx m.files path name value
    | .path => (showSettingsPath ctx m.files path, m.files)

/-- What the command that lists tasks prints, after it has loaded them. -/
def runList (m : Machine) (i : Invocation) (s : Settings) (request : ListRequest) : Outcome :=
  match m.loadTasks i s with
  | .error fault => .fail (.taskFile fault)
  | .ok tasks => listTasks (m.context i s) (request.withSettings s) tasks

/-- What a session prints, after it has loaded the tasks. -/
def runSession (m : Machine) (i : Invocation) (s : Settings) : Outcome :=
  match m.session i s, m.typed with
  | .error fault, _ => .fail fault
  | .ok _, none => .fail (.configuration .noTerminal)
  | .ok session, some lines => session.transcript lines

/-- What an invocation prints with some settings, and the files afterwards. -/
def runWith (m : Machine) (i : Invocation) (s : Settings) : Outcome × Files :=
  let ctx := m.context i s
  match i.command with
  | .greet => (if ctx.quiet then {} else .print greeting, m.files)
  | .list request => (m.runList i s request, m.files)
  | .check query tokens => (checkQuery ctx query tokens, m.files)
  | .interactive => (m.runSession i s, m.files)
  | .config request => m.runConfig ctx request
  | .completions shell => (.print (m.completion shell), m.files)

/-- What an invocation prints, and the files afterwards. -/
def run (m : Machine) (i : Invocation) : Outcome × Files :=
  match m.settings with
  | .ok s => m.runWith i s
  | .error fault =>
    if i.command.isConfig then m.runWith i {}
    else (.fail (.configuration (.storage fault)), m.files)

/-- What a command line asks for on a machine. -/
def invocation (m : Machine) (arguments : List String) : Except UsageFault Invocation :=
  Invocation.ofArguments (m.environment.lookup "TF_TASKS_FILE") arguments

/-- What a command line prints, and the files afterwards. -/
def runArguments (m : Machine) (arguments : List String) :
    Except UsageFault (Outcome × Files) :=
  (m.invocation arguments).map m.run

end Machine

end TaskQuery
