/-
  TaskQuery — why a query is rejected.

  A rejection has a cause and a position: the index of the token at fault, or
  the number of tokens if the query ends too early.

  * `Rejection.Cause` are the causes, and `Rejection.message` the sentence that
    is shown;
  * `Text.editDistance` is the least number of insertions, deletions and
    substitutions of one character that turn one text into another; it is computed row
    by row, and the row of a text `xs` against `ys` holds the distances of `xs` to `ys`
    and to each of the suffixes of `ys`, in that order, down to the empty one;
  * `suggestField name` is the field whose name is nearest to a misspelt one, if
    its edit distance is at most three; case does not count.
-/
import TaskQuery.Query.Vocabulary
import TaskQuery.Text.LetterCase

namespace TaskQuery

/-- The greatest depth of nested parentheses. -/
def maxNesting : Nat := 64

/-- The greatest number of conditions in a query. -/
def maxConditions : Nat := 512

/-! ## Causes -/

/-- The cause of a rejection. -/
inductive Rejection.Cause where
  /-- A condition begins with a word that is no field; perhaps `suggestion` was
      meant. -/
  | unknownField (word : String) (suggestion : Option Field)
  /-- After a field stands a word that is no operator. -/
  | unknownOperator (word : String)
  /-- The query ends after a field. -/
  | missingOperator (field : Field)
  /-- After an operator there is no value. -/
  | missingValue (field : Field) (operator : Operator)
  /-- A parenthesis is not closed. -/
  | unclosedParenthesis
  /-- The query ends before a condition. -/
  | unexpectedEnd
  /-- Parentheses nest deeper than the limit. -/
  | tooDeep
  /-- There are more conditions than the limit. -/
  | tooManyConditions
  /-- Tokens are left after the expression. -/
  | unexpectedToken (word : String)
  deriving DecidableEq

/-- Why and where a query is rejected. -/
structure Rejection where
  /-- The cause. -/
  cause : Rejection.Cause
  /-- The index of the token at fault. -/
  position : Nat
  deriving DecidableEq

/-! ## Messages -/

/-- The sentence for a cause. -/
def Rejection.Cause.message : Rejection.Cause → String
  | unknownField word suggestion =>
    "unknown field '" ++ word ++ "'"
      ++ (match suggestion with
        | some field => " (did you mean '" ++ field.name ++ "'?)"
        | none => "")
      ++ "; valid fields: " ++ ", ".intercalate (Field.all.map Field.name)
  | unknownOperator word =>
    "unknown operator '" ++ word ++ "'; valid operators: "
      ++ ", ".intercalate (Operator.all.map Operator.symbol)
  | missingOperator field => "missing operator after '" ++ field.name ++ "'"
  | missingValue field operator =>
    "missing value after '" ++ field.name ++ " " ++ operator.symbol ++ "'"
  | unclosedParenthesis => "unclosed parenthesis"
  | unexpectedEnd => "unexpected end of expression"
  | tooDeep => "expression nested too deeply (limit " ++ toString maxNesting ++ ")"
  | tooManyConditions => "too many conditions (limit " ++ toString maxConditions ++ ")"
  | unexpectedToken word => "unexpected token '" ++ word ++ "'"

/-- The sentence for a rejection. -/
def Rejection.message (r : Rejection) : String :=
  r.cause.message

/-! ## Edit distance -/

namespace Text

/-- The row of the empty text against `ys`. -/
def emptyRow : List Char → List Nat
  | [] => [0]
  | _ :: ys => (ys.length + 1) :: emptyRow ys

/-- The row of `x :: xs` against `ys`, from the row of `xs`. -/
def extendRow (x : Char) : List Char → List Nat → List Nat
  | y :: ys, d :: e :: row =>
    match extendRow x ys (e :: row) with
    | f :: new => (if x = y then e else 1 + min e (min d f)) :: f :: new
    | [] => []
  | _, d :: _ => [d + 1]
  | _, [] => []

/-- The distances of `xs` to `ys` and its suffixes. -/
def distanceRow (xs ys : List Char) : List Nat :=
  xs.foldr (fun x row => extendRow x ys row) (emptyRow ys)

/-- The edit distance of two texts. -/
def editDistance (xs ys : List Char) : Nat :=
  (distanceRow xs ys).headD 0

/-- The distance of the empty text is the length of the other one. -/
theorem editDistance_nil (ys : List Char) : editDistance [] ys = ys.length := by
  cases ys <;> simp [editDistance, distanceRow, emptyRow]

end Text

/-! ## Suggestions -/

/-- The greatest edit distance of a suggestion. -/
def maxSuggestionDistance : Nat := 3

/-- The edit distance of a word to the name of a field, without regard to case. -/
def Field.distance (word : String) (field : Field) : Nat :=
  Text.editDistance (Text.lowercase word).toList (Text.lowercase field.name).toList

/-- The first of the fields with the least distance to a word. -/
def nearestField (word : String) : Field :=
  let nearer (best field : Field) : Field :=
    if field.distance word < best.distance word then field else best
  Field.all.foldl nearer .done

/-- The field that may have been meant by a word: the nearest one, if it is near
    and not called that itself. -/
def suggestField (word : String) : Option Field :=
  let field := nearestField word
  if field.distance word ≤ maxSuggestionDistance ∧ field.name ≠ word then some field else none

end TaskQuery
