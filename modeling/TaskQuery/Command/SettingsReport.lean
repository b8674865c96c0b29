/-
  TaskQuery — the commands for settings.

  * `showSettings`, `showSettingsPath` and `changeSetting` are what the commands
    print; the last one also gives the files as they are afterwards.
-/
import TaskQuery.Command.Outcome

namespace TaskQuery

/-- The lines of a settings file that are not blank, indented. -/
def settingsLines (s : Settings) : List String :=
  ((s.toText.splitOn "\n").filter fun line => Text.trim line.toList ≠ []).map ("  " ++ ·)

/-- Whether there is a settings file, and its path, as members of a JSON value. -/
def settingsPathMembers (files : Files) (path : String) : List (String × Json) :=
  [("exists", .bool (files.pathExists path)), ("path", .string path)]

/-- The settings in the file at a path as a text. -/
def settingsOverview (ctx : Context) (files : Files) (path : String) (s : Settings) : String :=
  let title := paint ctx.colors [.bold] ("Configuration (" ++ path ++ ")")
  let body :=
    if files.pathExists path then settingsLines s
    else ["No config file yet; defaults apply. Create one with 'tf config set'."]
  unlines (title :: body)

/-- What the command that shows the settings prints. -/
def showSettings (ctx : Context) (files : Files) (path : String) : Outcome :=
  match Settings.load files path with
  | .error fault => .fail (.configuration (.storage fault))
  | .ok s =>
    if ctx.json then
      .printJson (.object (("config", s.toJson) :: settingsPathMembers files path))
    else if ctx.quiet then {}
    else .print (settingsOverview ctx files path s)

/-- What the command that shows the path of the settings file prints. -/
def showSettingsPath (ctx : Context) (files : Files) (path : String) : Outcome :=
  if ctx.json then .printJson (.object (settingsPathMembers files path))
  else .print (path ++ "\n")

/-- The settings in the file at a path, with the one of a name changed. -/
def changedSettings (files : Files) (path name value : String) (now : Instant) :
    Except ConfigurationFault Settings := do
  let s ← (Settings.load files path).mapError .storage
  (s.assignNamed name value now).mapError .assignment

/-- What is printed about a setting that was changed. -/
def settingReport (ctx : Context) (path name value : String) : Outcome :=
  if ctx.json then
    .printJson (.object [("key", .string name), ("path", .string path),
      ("status", .string "success"), ("value", .string value)])
  else if ctx.quiet then {}
  else .print (name ++ " = " ++ value ++ "\n")

/-- What the command that changes a setting prints, and the files afterwards. -/
def changeSetting (ctx : Context) (files : Files) (path name value : String) : Outcome × Files :=
  match changedSettings files path name value ctx.now with
  | .error fault => (.fail (.configuration fault), files)
  | .ok s =>
    match s.save files path with
    | (files, some fault) => (.fail (.configuration (.storage fault)), files)
    | (files, none) => (settingReport ctx path name value, files)

end TaskQuery
