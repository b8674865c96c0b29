/-
  TaskQuery — the words of the query language: the fields that a condition can
  look at, the operators it can compare with, and the connectives that join
  conditions.

  * `Field`, `Operator` and `Connective` are the three kinds of words, `name`
    and `symbol` their spelling, and `all` the words in the order in which they
    are listed and suggested;
  * `Field.ofName?` and `Operator.ofSymbol?` find the word with a spelling;
  * `Field.ofName?_eq_some_iff` and `Operator.ofSymbol?_eq_some_iff`: every word
    is found by its own spelling, and by no other.
-/

namespace TaskQuery

/-! ## Fields -/

/-- An attribute of a task that a condition can look at. -/
inductive Field where
  /-- Whether the task is completed. -/
  | done
  /-- The priority. -/
  | priority
  /-- The progress. -/
  | percentDone
  /-- The due date. -/
  | dueDate
  /-- The start date. -/
  | startDate
  /-- The end date. -/
  | endDate
  /-- When the task was completed. -/
  | doneAt
  /-- The people the task is assigned to. -/
  | assignees
  /-- The labels. -/
  | labels
  /-- The project. -/
  | project
  /-- The times to be reminded at. -/
  | reminders
  /-- When the task was created. -/
  | created
  /-- When the task was last updated. -/
  | updated
  deriving DecidableEq

namespace Field

/-- Every field, in the order in which fields are listed. -/
def all : List Field :=
  [.done, .priority, .percentDone, .dueDate, .startDate, .endDate, .doneAt, .assignees, .labels,
    .project, .reminders, .created, .updated]

/-- The name of a field. -/
def name : Field → String
  | done => "done"
  | priority => "priority"
  | percentDone => "percentDone"
  | dueDate => "dueDate"
  | startDate => "startDate"
  | endDate => "endDate"
  | doneAt => "doneAt"
  | assignees => "assignees"
  | labels => "labels"
  | project => "project"
  | reminders => "reminders"
  | created => "created"
  | updated => "updated"

/-- The field with a name. -/
def ofName? (name : String) : Option Field :=
  all.find? (·.name = name)

theorem mem_all (f : Field) : f ∈ all := by
  cases f <;> decide

/-- A field is found by its own name. -/
theorem ofName?_name (f : Field) : ofName? f.name = some f := by
  cases f <;> decide

/-- A field is found by no other name. -/
theorem ofName?_eq_some_iff {name : String} {f : Field} : ofName? name = some f ↔ name = f.name := by
  constructor
  · intro h
    have hp := List.find?_some h
    exact (of_decide_eq_true hp).symm
  · rintro rfl
    exact ofName?_name f

end Field

/-! ## Operators -/

/-- A comparison. -/
inductive Operator where
  /-- Equal. -/
  | eq
  /-- Not equal. -/
  | notEq
  /-- Greater. -/
  | gt
  /-- Greater or equal. -/
  | ge
  /-- Less. -/
  | lt
  /-- Less or equal. -/
  | le
  /-- Contains, without regard to case. -/
  | like
  /-- Is one of a list. -/
  | isIn
  /-- Is none of a list. -/
  | notIn
  deriving DecidableEq

namespace Operator

/-- Every operator, in the order in which operators are listed. -/
def all : List Operator :=
  [.eq, .notEq, .gt, .ge, .lt, .le, .like, .isIn, .notIn]

/-- The spelling of an operator. -/
def symbol : Operator → String
  | eq => "="
  | notEq => "!="
  | gt => ">"
  | ge => ">="
  | lt => "<"
  | le => "<="
  | like => "like"
  | isIn => "in"
  | notIn => "not in"

/-- The operator with a spelling. -/
def ofSymbol? (symbol : String) : Option Operator :=
  all.find? (·.symbol = symbol)

/-- Whether an operator compares with a list. -/
def takesList : Operator → Bool
  | isIn | notIn => true
  | _ => false

theorem mem_all (o : Operator) : o ∈ all := by
  cases o <;> decide

/-- An operator is found by its own spelling. -/
theorem ofSymbol?_symbol (o : Operator) : ofSymbol? o.symbol = some o := by
  cases o <;> decide

/-- An operator is found by no other spelling. -/
theorem ofSymbol?_eq_some_iff {symbol : String} {o : Operator} :
    ofSymbol? symbol = some o ↔ symbol = o.symbol := by
  constructor
  · intro h
    have hp := List.find?_some h
    exact (of_decide_eq_true hp).symm
  · rintro rfl
    exact ofSymbol?_symbol o

end Operator

/-! ## Connectives -/

/-- A way to join two expressions. -/
inductive Connective where
  /-- Both hold. -/
  | and
  /-- At least one holds. -/
  | or
  deriving DecidableEq

/-- The spelling of a connective. -/
def Connective.symbol : Connective → String
  | and => "&&"
  | or => "||"

end TaskQuery
