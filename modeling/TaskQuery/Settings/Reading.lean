/-
  TaskQuery — reading settings files.

  A settings file is a TOML document; keys that are no settings are ignored.  The
  version may be left out, and of any version the file is read alike.  A table of
  settings may also be an array of its values in order, or a date, which has no
  members.

  * `Settings.ofToml?` are the settings in a table, and `Settings.ofText?` those of
    a text; none if a setting has a value of the wrong kind.
-/
import TaskQuery.Settings.Basic
import TaskQuery.Toml.Reading

namespace TaskQuery

/-! ## Values -/

/-- The string that a value is. -/
def Toml.toText? : Toml → Option String
  | .text value => some value
  | _ => none

/-- The truth value that a value is. -/
def Toml.toBool? : Toml → Option Bool
  | .boolean value => some value
  | _ => none

/-- The count that a value is. -/
def Toml.toCount? : Toml → Option Count
  | .integer (.ofNat n) => Count.ofNat? n
  | _ => none

/-- A value that may be missing; none if it is there and of the wrong kind. -/
def optional? (read : Toml → Option α) : Option Toml → Option (Option α)
  | none => some none
  | some value => (read value).map some

namespace Settings

/-- The members of a table of settings, with the values of some keys in order. -/
def fields? (keys : List Key) : Option Toml → Option (List (Option Toml))
  | none | some (.moment _) => some (keys.map fun _ => none)
  | some (.table _ members) => some (keys.map fun key => members.lookup key.member)
  | some (.array items) | some (.tables items) => some (keys.mapIdx fun i _ => items[i]?)
  | some _ => none

/-- The settings in a table. -/
def ofToml? (root : Toml) : Option Settings := do
  let _ ← optional? Toml.toCount? (root.member? "version")
  let tasksFile ← optional? Toml.toText? (root.member? Key.tasksFile.member)
  let output ← fields? [.color, .dateFormat] (root.member? "output")
  let color ← optional? Toml.toBool? (output[0]?.join)
  let dateFormat ← optional? Toml.toText? (output[1]?.join)
  let list ← fields? [.limit] (root.member? "list")
  let limit ← optional? Toml.toCount? (list[0]?.join)
  let filter ← fields? [.defaultFilter] (root.member? "filter")
  let defaultFilter ← optional? Toml.toText? (filter[0]?.join)
  some { tasksFile, color, dateFormat, limit, defaultFilter }

/-- The settings of a text. -/
def ofText? (text : String) : Option Settings :=
  (Toml.ofText? text).bind ofToml?

end Settings

end TaskQuery
