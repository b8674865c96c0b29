/-
  TaskQuery — settings.

  Settings are kept in a file of four parts: the top, and the tables for output,
  lists and filters.  Each setting may be unset.

  * `Settings` are the settings, `Settings.Key` names one of them;
  * `Settings.toText` is the text of a settings file, `Settings.toJson` the same as
    JSON.
-/
import TaskQuery.Json.Basic
import TaskQuery.Number.Numeral
import TaskQuery.Toml.Writing

namespace TaskQuery

/-- The settings. -/
structure Settings where
  /-- The path of the task file. -/
  tasksFile : Option String := none
  /-- Whether colours are on. -/
  color : Option Bool := none
  /-- How dates are shown. -/
  dateFormat : Option String := none
  /-- How many tasks a list shows at most. -/
  limit : Option Count := none
  /-- The query that is used if none is given. -/
  defaultFilter : Option String := none
  deriving DecidableEq

namespace Settings

/-- The version of settings files. -/
def version : Nat := 1

/-! ## Keys -/

/-- The key of a setting. -/
inductive Key where
  /-- The path of the task file. -/
  | tasksFile
  /-- Whether colours are on. -/
  | color
  /-- How dates are shown. -/
  | dateFormat
  /-- How many tasks a list shows at most. -/
  | limit
  /-- The query that is used if none is given. -/
  | defaultFilter
  deriving DecidableEq

namespace Key

/-- All keys. -/
def all : List Key := [tasksFile, color, dateFormat, limit, defaultFilter]

/-- The table in which a setting stands; none for the top of the file. -/
def table : Key → Option String
  | tasksFile => none
  | color | dateFormat => some "output"
  | limit => some "list"
  | defaultFilter => some "filter"

/-- The name of a setting in its table. -/
def member : Key → String
  | tasksFile => "tasks_file"
  | color => "color"
  | dateFormat => "date_format"
  | limit => "limit"
  | defaultFilter => "default"

/-- The full name of a setting. -/
def name (key : Key) : String :=
  match key.table with
  | some table => table ++ "." ++ key.member
  | none => key.member

/-- The key with a name. -/
def ofName? (name : String) : Option Key :=
  all.find? (·.name = name)

/-- A key is found by its own name. -/
theorem ofName?_name (key : Key) : ofName? key.name = some key := by
  cases key <;> decide +kernel

end Key

/-! ## Text -/

/-- The written form of a truth value. -/
def boolText (value : Bool) : String :=
  if value then "true" else "false"

/-- The line of a setting, if it is set. -/
def line (key : Key) (written : Option String) : String :=
  match written with
  | some w => Toml.assignmentLine key.member w
  | none => ""

/-- The text of a settings file. -/
def toText (s : Settings) : String :=
  Toml.assignmentLine "version" (toString version)
    ++ line .tasksFile (s.tasksFile.map Toml.quote)
    ++ "\n[output]\n"
    ++ line .color (s.color.map boolText)
    ++ line .dateFormat (s.dateFormat.map Toml.quote)
    ++ "\n[list]\n"
    ++ line .limit (s.limit.map fun n => toString n.val)
    ++ "\n[filter]\n"
    ++ line .defaultFilter (s.defaultFilter.map Toml.quote)

/-- The settings as JSON, with the keys of every object in alphabetical order. -/
def toJson (s : Settings) : Json :=
  let part (key : Key) (value : Option Json) : List (String × Json) :=
    Json.optionalMember key.member value
  .object <|
    [("filter", .object (part .defaultFilter (s.defaultFilter.map .string))),
      ("list", .object (part .limit (s.limit.map fun n => .integer n.val))),
      ("output", .object (part .color (s.color.map .bool)
        ++ part .dateFormat (s.dateFormat.map .string)))]
    ++ part .tasksFile (s.tasksFile.map .string)
    ++ [("version", .integer version)]

end Settings

end TaskQuery
