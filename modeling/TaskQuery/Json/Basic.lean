/-
  TaskQuery — JSON values and their text.

  * `Json` is a value: numbers are integers or floating-point numbers, and the
    members of an object keep their order;
  * `Json.compact` writes a value without blanks;
  * `Json.pretty` writes every item and member on a line of its own, indented by
    two spaces a level; empty arrays and objects stay on their line.

  Strings escape the quote, the backslash and the control characters; numbers
  that are not finite are written as null.
-/
import TaskQuery.Number.Shortest

namespace TaskQuery

/-- A JSON value. -/
inductive Json where
  /-- Null. -/
  | null
  /-- A truth value. -/
  | bool (value : Bool)
  /-- A number without fraction and exponent. -/
  | integer (value : Int)
  /-- Any other number. -/
  | number (value : Number)
  /-- A string. -/
  | string (value : String)
  /-- An array. -/
  | array (items : List Json)
  /-- An object. -/
  | object (members : List (String × Json))

namespace Json

/-! ## Scalars -/

/-- A character as it is written in a string. -/
def escapeChar (c : Char) : List Char :=
  if c = '"' ∨ c = '\\' then ['\\', c]
  else if c = '\x08' then ['\\', 'b']
  else if c = '\t' then ['\\', 't']
  else if c = '\n' then ['\\', 'n']
  else if c = '\x0c' then ['\\', 'f']
  else if c = '\r' then ['\\', 'r']
  else if c.toNat < 0x20 then
    ['\\', 'u', '0', '0', Nat.digitChar (c.toNat / 16), Nat.digitChar (c.toNat % 16)]
  else [c]

/-- The text of a string. -/
def writeString (s : String) : List Char :=
  '"' :: s.toList.flatMap escapeChar ++ ['"']

/-- The text of an integer. -/
def writeInteger (i : Int) : List Char :=
  (if i < 0 then ['-'] else []) ++ Nat.toDigits 10 i.natAbs

/-- The text of a floating-point number. -/
def writeNumber : Number → List Char
  | .finite negative step => (Number.exponential.write negative step).toList
  | _ => "null".toList

/-! ## Compact text -/

mutual

/-- The compact text of a value, as characters. -/
def compactChars : Json → List Char
  | .null => "null".toList
  | .bool value => (if value then "true" else "false").toList
  | .integer value => writeInteger value
  | .number value => writeNumber value
  | .string value => writeString value
  | .array [] => ['[', ']']
  | .array (item :: items) => '[' :: compactChars item ++ compactItems items
  | .object [] => ['\x7b', '\x7d']
  | .object ((key, value) :: members) =>
    '\x7b' :: writeString key ++ ':' :: compactChars value ++ compactMembers members

/-- The compact text of the items after the first, and the closing bracket. -/
def compactItems : List Json → List Char
  | [] => [']']
  | item :: items => ',' :: compactChars item ++ compactItems items

/-- The compact text of the members after the first, and the closing brace. -/
def compactMembers : List (String × Json) → List Char
  | [] => ['\x7d']
  | (key, value) :: members =>
    ',' :: writeString key ++ ':' :: compactChars value ++ compactMembers members

end

/-- The compact text of a value. -/
def compact (value : Json) : String :=
  String.ofList value.compactChars

/-! ## Indented text -/

/-- A new line at a level of indentation. -/
def lineAt (level : Nat) : List Char :=
  '\n' :: List.replicate (2 * level) ' '

mutual

/-- The indented text of a value that stands at a level, as characters. -/
def prettyChars (level : Nat) : Json → List Char
  | .array (item :: items) =>
    '[' :: lineAt (level + 1) ++ prettyChars (level + 1) item ++ prettyItems level items
  | .object ((key, value) :: members) =>
    '\x7b' :: lineAt (level + 1) ++ writeString key ++ ':' :: ' ' :: prettyChars (level + 1) value
      ++ prettyMembers level members
  | value => compactChars value

/-- The indented text of the items after the first, and the closing bracket. -/
def prettyItems (level : Nat) : List Json → List Char
  | [] => lineAt level ++ [']']
  | item :: items =>
    ',' :: lineAt (level + 1) ++ prettyChars (level + 1) item ++ prettyItems level items

/-- The indented text of the members after the first, and the closing brace. -/
def prettyMembers (level : Nat) : List (String × Json) → List Char
  | [] => lineAt level ++ ['\x7d']
  | (key, value) :: members =>
    ',' :: lineAt (level + 1) ++ writeString key ++ ':' :: ' ' :: prettyChars (level + 1) value
      ++ prettyMembers level members

end

/-- The indented text of a value. -/
def pretty (value : Json) : String :=
  String.ofList (value.prettyChars 0)

/-! ## Members -/

/-- The values of all members with a key. -/
def membersNamed (key : String) (members : List (String × Json)) : List Json :=
  members.filterMap fun (k, value) => if k = key then some value else none

/-- A member that is left out if there is no value. -/
def optionalMember (key : String) (value : Option Json) : List (String × Json) :=
  value.toList.map fun v => (key, v)

end Json

end TaskQuery
