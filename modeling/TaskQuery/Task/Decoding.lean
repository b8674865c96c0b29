/-
  TaskQuery — tasks from JSON values.

  A task is an object or an array.  In an object every attribute is looked up by
  its key; an attribute that is absent has its default, other keys are ignored,
  and a key of an attribute that occurs twice is refused.  In an array the
  attributes stand in order, and missing ones at the end have their defaults.
  Only attributes that may be unset can be null.

  * `Json.toText?`, `toNumber?`, … read the value of an attribute;
  * `Task.keys` are the keys, and `Task.ofSlots?` makes a task from the values
    of its attributes in that order;
  * `Task.ofJson?` is the task that a JSON value is.
-/
import TaskQuery.Task.Basic

namespace TaskQuery

/-! ## Attributes -/

namespace Json

/-- A text. -/
def toText? : Json → Option String
  | .string s => some s
  | _ => none

/-- A truth value. -/
def toBool? : Json → Option Bool
  | .bool b => some b
  | _ => none

/-- A number. -/
def toNumber? : Json → Option Number
  | .integer i => some (.ofInt i)
  | .number n => some n
  | _ => none

/-- A list of texts. -/
def toTexts? : Json → Option (List String)
  | .array items => items.mapM toText?
  | _ => none

/-- A value that may be unset, which null says. -/
def toOptional? (read : Json → Option α) : Json → Option (Option α)
  | .null => some none
  | value => (read value).map some

/-- A priority: its name, or an object with the name as its only key and null as
    the value. -/
def toPriority? : Json → Option Priority
  | .string name => Priority.ofExactName? name
  | .object [(name, .null)] => Priority.ofExactName? name
  | _ => none

end Json

/-! ## Tasks -/

namespace Task

/-- The keys of the attributes, in order. -/
def keys : List String :=
  ["id", "title", "done", "priority", "percentDone", "dueDate", "startDate", "endDate", "doneAt",
    "assignees", "labels", "project", "reminders", "created", "updated"]

/-- The value of an attribute from the values given in order: its default if there
    is none. -/
def slot (slots : List (Option Json)) (index : Nat) (default : α) (read : Json → Option α) :
    Option α :=
  match slots[index]? with
  | some (some value) => read value
  | _ => some default

/-- The task with attributes given in order. -/
def ofSlots? (slots : List (Option Json)) : Option Task := do
  let optionalText (index : Nat) := slot slots index none (Json.toOptional? Json.toText?)
  let id ← slot slots 0 "" Json.toText?
  let title ← slot slots 1 "" Json.toText?
  let done ← slot slots 2 false Json.toBool?
  let priority ← slot slots 3 none (Json.toOptional? Json.toPriority?)
  let percentDone ← slot slots 4 (.zero false) Json.toNumber?
  let dueDate ← optionalText 5
  let startDate ← optionalText 6
  let endDate ← optionalText 7
  let doneAt ← optionalText 8
  let assignees ← slot slots 9 [] Json.toTexts?
  let labels ← slot slots 10 [] Json.toTexts?
  let project ← optionalText 11
  let reminders ← slot slots 12 [] Json.toTexts?
  let created ← optionalText 13
  let updated ← optionalText 14
  return { id, title, done, priority, percentDone, dueDate, startDate, endDate, doneAt,
           assignees, labels, project, reminders, created, updated }

/-- The value of a key that occurs at most once. -/
def uniqueMember? (members : List (String × Json)) (key : String) : Option (Option Json) :=
  match Json.membersNamed key members with
  | [] => some none
  | [value] => some (some value)
  | _ => none

/-- The task that a JSON value is. -/
def ofJson? : Json → Option Task
  | .object members => (keys.mapM (uniqueMember? members)).bind ofSlots?
  | .array items => if items.length ≤ keys.length then ofSlots? (items.map some) else none
  | _ => none

end Task

end TaskQuery
