/-
  TaskQuery — which records an expression keeps.

  A record is looked at through its fields only.  In a condition on the
  priority, the names of the levels stand for their ranks.  An unset field is
  in no order relation, contains nothing and is in no list.  A collection is
  compared by its comma-joined text.

  * `Condition.holds` and `Expression.holds` decide one record;
  * `keeps filter record` is the decision of a filter that may be empty, and
    `filterRecords` the records that a filter keeps;
  * `occursIn_iff`: the search for a text finds exactly its occurrences.
-/
import TaskQuery.Query.FieldValue
import TaskQuery.Task.Priority

namespace TaskQuery

/-- A record: the values of its fields. -/
abbrev Record := Field → FieldValue

/-! ## Literals as values -/

/-- The value of a text in a condition on a field. -/
def itemValue (field : Field) (item : String) : FieldValue :=
  match if field = .priority then Priority.ofName? item else none with
  | some priority => .number (Number.ofInt priority.rank)
  | none => .text item

/-- The value of a literal in a condition on a field. -/
def literalValue (field : Field) : Literal → FieldValue
  | .bool value => .bool value
  | .number value => .number value
  | .text value => itemValue field value
  | .list items => .list items

/-! ## Comparisons -/

/-- Whether a text occurs in another. -/
def occursIn (needle : List Char) : List Char → Bool
  | [] => needle.isPrefixOf []
  | c :: rest => needle.isPrefixOf (c :: rest) || occursIn needle rest

/-- The search for a text finds exactly its occurrences. -/
theorem occursIn_iff {needle text : List Char} : occursIn needle text ↔ needle <:+: text := by
  induction text with
  | nil => simp [occursIn]
  | cons c rest ih => simp [occursIn, ih, List.infix_cons_iff]

/-- Whether the order of two values is accepted; values without an order are
    not. -/
def ordered (actual expected : FieldValue) (accept : Ordering → Bool) : Bool :=
  match actual.compare? expected with
  | some order => accept order
  | none => false

/-- The text that a literal searches for; lists search for nothing. -/
def pattern? : Literal → Option String
  | .text value => some (Text.lowercase value)
  | .number value => some value.toText
  | .bool value => some (boolText value)
  | .list _ => none

/-- Whether the lower-case text of a value contains the text of a literal. -/
def isLike (actual : FieldValue) (literal : Literal) : Bool :=
  match pattern? literal, actual.toText with
  | some needle, some text => occursIn needle.toList (Text.lowercase text).toList
  | _, _ => false

/-- Whether a value is one of the items of a list. -/
def isOneOf (field : Field) (actual : FieldValue) (items : List String) : Bool :=
  !actual.isNull && items.any fun item => actual.looseEq (itemValue field item)

/-! ## Decisions -/

/-- Whether a condition holds of a record.  A list where a single value belongs,
    or the reverse, never holds. -/
def Condition.holds (c : Condition) (record : Record) : Bool :=
  let actual := record c.field
  let expected := literalValue c.field c.value
  match c.operator, c.value with
  | .isIn, .list items => isOneOf c.field actual items
  | .notIn, .list items => !isOneOf c.field actual items
  | .isIn, _ | .notIn, _ | _, .list _ => false
  | .eq, _ => actual.strictEq expected
  | .notEq, _ => !actual.strictEq expected
  | .gt, _ => ordered actual expected Ordering.isGT
  | .ge, _ => ordered actual expected Ordering.isGE
  | .lt, _ => ordered actual expected Ordering.isLT
  | .le, _ => ordered actual expected Ordering.isLE
  | .like, value => isLike actual value

/-- Whether an expression holds of a record. -/
def Expression.holds (record : Record) : Expression → Bool
  | condition c => c.holds record
  | joined .and left right => left.holds record && right.holds record
  | joined .or left right => left.holds record || right.holds record

/-- Whether a filter keeps a record; the empty filter keeps every record. -/
def keeps (filter : Option Expression) (record : Record) : Bool :=
  match filter with
  | some e => e.holds record
  | none => true

/-- The records that a filter keeps. -/
def filterRecords (filter : Option Expression) (view : α → Record) (records : List α) : List α :=
  records.filter fun r => keeps filter (view r)

end TaskQuery
