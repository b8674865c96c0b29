/-
  TaskQuery — filter expressions.

  An expression is a condition, or two expressions joined by a connective.  A
  condition compares a field with a literal.  Parentheses leave no trace: an
  expression is written with parentheses around every pair that is joined.

  * `Literal`, `Condition` and `Expression` are the types;
  * `Expression.toText` is the normal text of an expression, and
    `Expression.toJson` its tree;
  * `Expression.conditions` and `Expression.connectives` count the nodes;
  * `Expression.conditions_eq`: there is one condition more than connectives.
-/
import TaskQuery.Json.Basic
import TaskQuery.Query.Vocabulary
import TaskQuery.Text.Quoted

namespace TaskQuery

/-! ## Literals -/

/-- The right-hand side of a condition. -/
inductive Literal where
  /-- A text. -/
  | text (value : String)
  /-- The items of a list. -/
  | list (items : List String)
  /-- A number. -/
  | number (value : Number)
  /-- A truth value. -/
  | bool (value : Bool)
  deriving DecidableEq

/-- The text of a truth value. -/
def boolText (value : Bool) : String :=
  if value then "true" else "false"

/-- The text of a literal: texts are quoted, lists are in brackets. -/
def Literal.toText : Literal → String
  | text value => Text.quote value
  | list items => "[" ++ ", ".intercalate (items.map Text.quote) ++ "]"
  | number value => value.toText
  | bool value => boolText value

/-- A literal as a JSON value. -/
def Literal.toJson : Literal → Json
  | text value => .string value
  | list items => .array (items.map .string)
  | number value => .number value
  | bool value => .bool value

/-! ## Conditions -/

/-- A comparison of a field with a literal.  In a condition that comes from a
    query the literal is a list exactly if the operator takes one. -/
structure Condition where
  /-- The field that is looked at. -/
  field : Field
  /-- The comparison. -/
  operator : Operator
  /-- What the field is compared with. -/
  value : Literal
  deriving DecidableEq

/-- The text of a condition. -/
def Condition.toText (c : Condition) : String :=
  c.field.name ++ " " ++ c.operator.symbol ++ " " ++ c.value.toText

/-! ## Expressions -/

/-- A filter expression. -/
inductive Expression where
  /-- A single condition. -/
  | condition (c : Condition)
  /-- Two expressions that are joined. -/
  | joined (connective : Connective) (left right : Expression)
  deriving DecidableEq

namespace Expression

/-- Both expressions hold. -/
abbrev and (left right : Expression) : Expression := .joined .and left right

/-- At least one of the expressions holds. -/
abbrev or (left right : Expression) : Expression := .joined .or left right

/-- The normal text of an expression. -/
def toText : Expression → String
  | condition c => c.toText
  | joined connective left right =>
    "(" ++ left.toText ++ " " ++ connective.symbol ++ " " ++ right.toText ++ ")"

/-- The tree of an expression as a JSON value. -/
def toJson : Expression → Json
  | condition c => .object
    [("type", .string "condition"), ("field", .string c.field.name),
      ("operator", .string c.operator.symbol), ("value", c.value.toJson)]
  | joined connective left right => .object
    [("type", .string "logical"), ("logical", .string connective.symbol),
      ("left", left.toJson), ("right", right.toJson)]

/-- The number of conditions in an expression. -/
def conditions : Expression → Nat
  | condition _ => 1
  | joined _ left right => left.conditions + right.conditions

/-- The number of connectives in an expression. -/
def connectives : Expression → Nat
  | condition _ => 0
  | joined _ left right => left.connectives + right.connectives + 1

/-- There is one condition more than connectives. -/
theorem conditions_eq (e : Expression) : e.conditions = e.connectives + 1 := by
  induction e with
  | condition _ => rfl
  | joined _ left right ihl ihr => simp only [conditions, connectives, ihl, ihr]; omega

end Expression

end TaskQuery
