/-
  TaskQuery — where settings and tasks are kept.

  Places are found by variables of the environment: those that name a file
  come first, then those that name a directory for files of a kind, then the home
  directory.

  * `Environment` are the variables with their values;
  * `settingsPath?` is the path of the settings file, `tasksPath?` that of the
    task file if none is named;
  * `Settings.load` reads the settings file, which may be missing, and
    `Settings.save` writes it; `StorageFault` says why they fail.
-/
import TaskQuery.Files.Basic
import TaskQuery.Settings.Reading

namespace TaskQuery

/-! ## Paths -/

/-- The variables of the environment with their values. -/
abbrev Environment := List (String × String)

/-- The value of a variable, unless it is empty. -/
def Environment.nonEmpty? (environment : Environment) (name : String) : Option String :=
  (environment.lookup name).filter (· ≠ "")

/-- A path with names after it. -/
def joinNames (path : String) (names : List String) : String :=
  names.foldl joinPath path

/-- The path of the settings file; none without a home directory. -/
def settingsPath? (environment : Environment) : Option String :=
  match environment.lookup "TF_CONFIG" with
  | some path => some path
  | none =>
    let root := match environment.lookup "XDG_CONFIG_HOME" with
      | some root => some root
      | none => (environment.nonEmpty? "HOME").map (joinNames · [".config"])
    root.map (joinNames · ["tf", "config.toml"])

/-- The path of the task file if none is named; none without a home directory.  A
    directory for such files counts only if its path starts at the root. -/
def tasksPath? (environment : Environment) : Option String := do
  let home ← environment.nonEmpty? "HOME"
  let root := match (environment.lookup "XDG_DATA_HOME").filter (·.toList.head? = some '/') with
    | some root => root
    | none => joinNames home [".local", "share"]
  some (joinNames root ["tf", "tasks.json"])

/-! ## Settings files -/

/-- Why a settings file cannot be read or written. -/
inductive StorageFault where
  /-- There is no home directory. -/
  | homeless
  /-- The file at a path cannot be read. -/
  | unreadable (path : String) (fault : FileFault)
  /-- The text of the file at a path is no settings file. -/
  | invalid (path : String)
  /-- A directory cannot be made. -/
  | noDirectory (path : String) (fault : FileFault)
  /-- The file at a path cannot be written. -/
  | unwritable (path : String) (fault : FileFault)
  deriving DecidableEq

/-- The sentence for a fault. -/
def StorageFault.message : StorageFault → String
  | homeless => "cannot locate a home directory"
  | unreadable path fault => "cannot read " ++ path ++ ": " ++ fault.message
  | invalid path => "invalid " ++ path ++ ": "
  | noDirectory path fault => "cannot create " ++ path ++ ": " ++ fault.message
  | unwritable path fault => "cannot write " ++ path ++ ": " ++ fault.message

namespace Settings

/-- The settings in the file at a path; if nothing is there, all are unset. -/
def load (files : Files) (path : String) : Except StorageFault Settings :=
  if files.pathExists path then
    match files.readText path with
    | .error fault => .error (.unreadable path fault)
    | .ok text =>
      match ofText? text with
      | some s => .ok s
      | none => .error (.invalid path)
  else .ok {}

/-- The files with the directory made in which a path ends, and why it cannot be
    made, if so. -/
def makeRoom (files : Files) (path : String) : Files × Option StorageFault :=
  match parentPath path with
  | none => (files, none)
  | some above =>
    let (files, fault) := files.makeDirectories above
    (files, fault.map (.noDirectory above))

/-- The files with settings written to a path, and why they cannot be written, if so.
    Directories on the way are made first, and stay. -/
def save (files : Files) (path : String) (s : Settings) : Files × Option StorageFault :=
  match makeRoom files path with
  | (files, some fault) => (files, some fault)
  | (files, none) =>
    match files.writeText path s.toText with
    | .ok files => (files, none)
    | .error fault => (files, some (.unwritable path fault))

end Settings

end TaskQuery
