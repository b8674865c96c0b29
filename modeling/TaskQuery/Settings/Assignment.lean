/-
  TaskQuery — changing settings.

  A value is checked before it is assigned, so a setting that was assigned can be
  used later: truth values have eight spellings, dates two formats, and a default
  query must be one that is not rejected.  Blanks around a default query do not
  count, and a blank one unsets it.

  * `Settings.assign` assigns a value to a key, `Settings.assignNamed` to a key
    with a name;
  * `Settings.AssignmentFault` says why a value is refused.
-/
import TaskQuery.Query.Parsing
import TaskQuery.Settings.Basic

namespace TaskQuery.Settings

/-! ## Faults -/

/-- Why a setting is not changed. -/
inductive AssignmentFault where
  /-- No setting has this name. -/
  | unknownKey (name : String)
  /-- A value is none of the expected ones. -/
  | invalidValue (subject value expected : String)
  /-- A query is rejected. -/
  | invalidFilter (query : String) (rejection : Rejection)
  deriving DecidableEq

/-- The sentence for a fault. -/
def AssignmentFault.message : AssignmentFault → String
  | unknownKey name =>
    "unknown key '" ++ name ++ "' (expected one of: "
      ++ ", ".intercalate (Key.all.map Key.name) ++ ")"
  | invalidValue subject value expected =>
    "invalid " ++ subject ++ " '" ++ value ++ "' (expected " ++ expected ++ ")"
  | invalidFilter query rejection =>
    "'" ++ query ++ "' is not a valid filter: " ++ rejection.message

/-! ## Values -/

/-- The truth value with a spelling, in any case. -/
def boolOfText? (text : String) : Option Bool :=
  let word := String.ofList (text.toList.map Char.toLower)
  if word ∈ ["true", "yes", "on", "1"] then some true
  else if word ∈ ["false", "no", "off", "0"] then some false
  else none

/-- The formats of dates. -/
def dateFormats : List String := ["relative", "iso"]

/-- A text without blanks around it; none if nothing is left. -/
def nonBlank? (text : String) : Option String :=
  let trimmed := Text.trim text.toList
  if trimmed = [] then none else some (String.ofList trimmed)

/-! ## Assignment -/

/-- The settings with a value assigned to a key.  A query is tried out at an
    instant; which one it is does not matter. -/
def assign (s : Settings) (key : Key) (value : String) (now : Instant) :
    Except AssignmentFault Settings :=
  match key with
  | .tasksFile => .ok { s with tasksFile := some value }
  | .color =>
    match boolOfText? value with
    | some b => .ok { s with color := some b }
    | none => .error (.invalidValue "boolean" value "true/false, yes/no, on/off or 1/0")
  | .dateFormat =>
    if value ∈ dateFormats then .ok { s with dateFormat := some value }
    else .error (.invalidValue key.name value (", ".intercalate dateFormats))
  | .limit =>
    match Count.ofText? value with
    | some n => .ok { s with limit := some n }
    | none => .error (.invalidValue key.name value "a non-negative integer")
  | .defaultFilter =>
    match parseQuery value now with
    | .ok _ => .ok { s with defaultFilter := nonBlank? value }
    | .error rejection => .error (.invalidFilter value rejection)

/-- The settings with a value assigned to the key with a name. -/
def assignNamed (s : Settings) (name value : String) (now : Instant) :
    Except AssignmentFault Settings :=
  match Key.ofName? name with
  | some key => s.assign key value now
  | none => .error (.unknownKey name)

end TaskQuery.Settings
