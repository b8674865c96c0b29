/-
  TaskQuery — the values that conditions look at.

  * `FieldValue` is the value of a field: unset, or of one of four kinds;
  * `FieldValue.toText` is the text of a value, lists joined by commas;
  * `FieldValue.strictEq` compares values of one kind, `FieldValue.looseEq` also
    the texts of values of different kinds;
  * `FieldValue.compare?` orders numbers, truth values and texts; two texts that
    are instants are ordered as instants, others by their characters.
-/
import TaskQuery.Calendar.Reading
import TaskQuery.Query.Expression

namespace TaskQuery

/-- The value of a field. -/
inductive FieldValue where
  /-- The field is not set. -/
  | null
  /-- A truth value. -/
  | bool (value : Bool)
  /-- A number. -/
  | number (value : Number)
  /-- A text; dates and times are texts too. -/
  | text (value : String)
  /-- A collection of texts. -/
  | list (items : List String)
  deriving DecidableEq

namespace FieldValue

/-- The value of a text that may be missing. -/
def ofText? : Option String → FieldValue
  | some value => text value
  | none => null

/-- Whether the field is not set. -/
def isNull (v : FieldValue) : Bool :=
  v = null

/-- The text of a value. -/
def toText : FieldValue → Option String
  | null => none
  | bool value => some (boolText value)
  | number value => some value.toText
  | text value => some value
  | list items => some (",".intercalate items)

/-- Equality of values of one kind; nothing equals an unset field. -/
def strictEq : FieldValue → FieldValue → Bool
  | bool a, bool b => a == b
  | number a, number b => a.equal b
  | text a, text b => a == b
  | list a, list b => a == b
  | _, _ => false

/-- Equality of values, or of their texts. -/
def looseEq (a b : FieldValue) : Bool :=
  a.strictEq b || match a.toText, b.toText with
    | some s, some t => s == t
    | _, _ => false

/-- The order of two texts. -/
def compareTexts (a b : String) : Ordering :=
  match Instant.ofText? a, Instant.ofText? b with
  | some i, some j => i.compare j
  | _, _ => compare a b

/-- The order of two values, if they are of one kind that has one. -/
def compare? : FieldValue → FieldValue → Option Ordering
  | number a, number b => a.compare? b
  | bool a, bool b => some (compare a b)
  | text a, text b => some (compareTexts a b)
  | _, _ => none

end FieldValue

end TaskQuery
