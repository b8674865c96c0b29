/-
  TaskQuery — TOML values, and documents built up from their lines.

  A table is made by a header, by being on the way to another one, by a dotted
  key, or inline; how it was made decides what may still be added to it.

  * `Toml` is a value;
  * `Toml.alter` changes the table at the end of a path, making tables on the way;
  * `Toml.assign`, `Toml.openTable` and `Toml.openItem` are what the lines of a
    document do; none of them defines anything twice.
-/
import TaskQuery.Number.Basic

namespace TaskQuery

/-- How a table was made. -/
inductive TableOrigin where
  /-- By a header of its own, or as the document. -/
  | header
  /-- On the way to the table of another header. -/
  | implied
  /-- By a dotted key. -/
  | dotted
  /-- In braces. -/
  | inline
  deriving DecidableEq

/-- A TOML value. -/
inductive Toml where
  /-- A string. -/
  | text (value : String)
  /-- An integer. -/
  | integer (value : Int)
  /-- A floating-point number. -/
  | float (value : Number)
  /-- A truth value. -/
  | boolean (value : Bool)
  /-- A date, a time, or both, as it is written. -/
  | moment (written : String)
  /-- An array. -/
  | array (items : List Toml)
  /-- A table. -/
  | table (origin : TableOrigin) (members : List (String × Toml))
  /-- An array of tables with headers, the latest first. -/
  | tables (items : List Toml)

namespace Toml

/-- The members with the value of a key changed. -/
def alterMember (key : String) (f : Option Toml → Option Toml) :
    List (String × Toml) → Option (List (String × Toml))
  | [] => (f none).map fun value => [(key, value)]
  | (k, value) :: rest =>
    if k = key then (f (some value)).map fun value => (k, value) :: rest
    else (alterMember key f rest).map ((k, value) :: ·)

/-- The table with the member of a key changed. -/
def alterKey (key : String) (f : Option Toml → Option Toml) : Toml → Option Toml
  | table origin members => (alterMember key f members).map (table origin)
  | _ => none

/-- The value with the table at the end of a path changed.  Tables that are
    missing on the way are made.  Inline tables cannot be entered, and by a dotted
    key no table with a header; of an array of tables the latest is entered. -/
def alter (byDottedKey : Bool) (f : Toml → Option Toml) : List String → Toml → Option Toml
  | [], t => f t
  | key :: path, t =>
    t.alterKey key fun
      | none => alter byDottedKey f path (table (if byDottedKey then .dotted else .implied) [])
      | some (table origin members) =>
        if origin = .inline ∨ (byDottedKey ∧ origin = .header) then none
        else alter byDottedKey f path (table origin members)
      | some (tables (latest :: others)) =>
        (alter byDottedKey f path latest).map fun latest => tables (latest :: others)
      | some _ => none

/-- Assigns a value to a key that has none, in the table that a dotted path leads
    to.  That table is made by dotted keys exactly if there is a path. -/
def assign (path : List String) (key : String) (value : Toml) : Toml → Option Toml :=
  alter true (fun t =>
    match t with
    | table origin _ =>
      if (origin = .dotted) = (path = []) then none
      else t.alterKey key fun
        | none => some value
        | some _ => none
    | _ => none) path

/-- Opens the table of a header, which may be there only on the way to others. -/
def openTable (path : List String) (key : String) : Toml → Option Toml :=
  alter false (alterKey key fun
    | none => some (table .header [])
    | some (table .implied members) => some (table .header members)
    | some _ => none) path

/-- Opens one more table of an array of tables. -/
def openItem (path : List String) (key : String) : Toml → Option Toml :=
  alter false (alterKey key fun
    | none => some (tables [table .header []])
    | some (tables items) => some (tables (table .header [] :: items))
    | some _ => none) path

/-- The value of a key in a table. -/
def member? (key : String) : Toml → Option Toml
  | table _ members => members.lookup key
  | _ => none

end Toml

end TaskQuery
