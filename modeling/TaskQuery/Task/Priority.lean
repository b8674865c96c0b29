/-
  TaskQuery — task priorities.

  * `Priority` is a level, `Priority.rank` its place on the scale from `1` to `3`
    and `Priority.name` its name;
  * `Priority.ofName?` finds a level by its name in any case, and
    `Priority.ofExactName?` by its name as it is stored;
  * `Priority.ofName?_name`: a level is found by its own name.
-/
import TaskQuery.Text.LetterCase

namespace TaskQuery

/-- A priority. -/
inductive Priority where
  /-- The lowest level. -/
  | low
  /-- The middle level. -/
  | medium
  /-- The highest level. -/
  | high
  deriving DecidableEq

namespace Priority

/-- The levels, lowest first. -/
def all : List Priority := [.low, .medium, .high]

/-- The place of a level on the scale. -/
def rank : Priority → Nat
  | low => 1
  | medium => 2
  | high => 3

/-- The name of a level. -/
def name : Priority → String
  | low => "low"
  | medium => "medium"
  | high => "high"

/-- The level with a name. -/
def ofExactName? (name : String) : Option Priority :=
  all.find? (·.name = name)

/-- The level with a name in any case. -/
def ofName? (name : String) : Option Priority :=
  ofExactName? (Text.lowercase name)

/-- A level is found by its own name. -/
theorem ofName?_name (p : Priority) : ofName? p.name = some p := by
  cases p <;> decide +kernel

end Priority

end TaskQuery
