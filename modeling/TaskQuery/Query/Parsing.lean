/-
  TaskQuery — from tokens to expressions.

  A query is one expression.  An expression is one or more terms joined by `||`,
  which group to the right; a term is an operand followed by any number of
  conditions, each after `&&`, which group to the left; an operand is an
  expression in parentheses or a condition; a condition is a field, an operator
  and a value, or for `in` and `not in` the items of a list.  So a group may only
  lead a term.

  * `Cursor` is a place in a token stream, and `Parser` reads a phrase there;
  * `Parser.many connective item` reads the items of a chain after the first;
  * `Parser.condition`, `operand`, `term` and `expression` read the phrases; the
    argument `allowance` is how many more parentheses may be opened;
  * `parseTokens` reads a whole token stream, `parseQuery` a query;
  * `Parser.joinTerms_cons`: a chain of terms groups to the right;
  * `Parser.many_eq`: the bound on the length of a chain is never met, as long as every
    item takes at least one token.
-/
import TaskQuery.Calendar.Instant
import TaskQuery.Number.Numeral
import TaskQuery.Query.Expression
import TaskQuery.Query.Rejection
import TaskQuery.Query.Token

namespace TaskQuery

/-! ## Places in a token stream -/

/-- A place in a token stream. -/
structure Cursor where
  /-- The number of tokens before the place. -/
  index : Nat
  /-- The tokens after it. -/
  rest : List Token

namespace Cursor

/-- The start of a token stream. -/
def start (tokens : List Token) : Cursor := ⟨0, tokens⟩

/-- Whether the next token is `token`. -/
def isAt (c : Cursor) (token : Token) : Bool :=
  c.rest.head? = some token

/-- The place `n` tokens further on. -/
def skip (c : Cursor) (n : Nat) : Cursor :=
  ⟨c.index + n, c.rest.drop n⟩

/-- The rejection of a query at a place. -/
def reject (c : Cursor) (cause : Rejection.Cause) : Except Rejection α :=
  .error ⟨cause, c.index⟩

end Cursor

/-- A reader of a phrase at a place: what it read, and the place after it. -/
abbrev Parser (α : Type) := Cursor → Except Rejection (α × Cursor)

namespace Parser

/-! ## Values -/

/-- The pieces of a text between the commas. -/
def splitCommas : List Char → List (List Char)
  | [] => [[]]
  | c :: rest =>
    match splitCommas rest with
    | piece :: pieces => if c = ',' then [] :: piece :: pieces else (c :: piece) :: pieces
    | [] => [[c]]

/-- The list items in a token: a literal is one item; any other token is split at
    its commas, and empty items are dropped. -/
def itemsOf (token : Token) : List String :=
  if token.quoted then [token.text]
  else ((splitCommas token.text.toList).map Text.trim |>.filter (· ≠ [])).map String.ofList

/-- Whether a token ends a list. -/
def endsList (token : Token) : Bool :=
  token = .bare "&&" || token = .bare "||" || token = .bare ")"

/-- The value that a token stands for.  A literal is a text; `now` is the instant
    of the query; a text that is no truth value and no finite number stands for
    itself. -/
def literalOf (now : Instant) (token : Token) : Literal :=
  if token.quoted then .text token.text
  else if token.text = "true" then .bool true
  else if token.text = "false" then .bool false
  else if token.text = "now" then .text now.toText
  else match Number.ofText? token.text with
    | some n => if n.isFinite then .number n else .text token.text
    | none => .text token.text

/-! ## Conditions -/

/-- Reads a field. -/
def field : Parser Field := fun c =>
  match c.rest with
  | [] => c.reject .unexpectedEnd
  | token :: _ =>
    match Field.ofName? token.text with
    | some f => .ok (f, c.skip 1)
    | none => c.reject (.unknownField token.text (suggestField token.text))

/-- Reads the operator after a field; `not in` is two tokens. -/
def operator (f : Field) : Parser Operator := fun c =>
  match c.rest with
  | [] => c.reject (.missingOperator f)
  | token :: rest =>
    if token = .bare "not" ∧ rest.head? = some (.bare "in") then .ok (.notIn, c.skip 2)
    else match Operator.ofSymbol? token.text with
      | some o =>
        if token.quoted ∨ o = .notIn then c.reject (.unknownOperator token.text)
        else .ok (o, c.skip 1)
      | none => c.reject (.unknownOperator token.text)

/-- Reads the items of a list, up to a connective, a closing parenthesis or the
    end of the query. -/
def listItems (f : Field) (o : Operator) : Parser (List String) := fun c =>
  let tokens := c.rest.takeWhile fun token => !endsList token
  let items := tokens.flatMap itemsOf
  if items = [] then c.reject (.missingValue f o) else .ok (items, c.skip tokens.length)

/-- Reads a single value. -/
def scalar (now : Instant) (f : Field) (o : Operator) : Parser Literal := fun c =>
  match c.rest with
  | [] => c.reject (.missingValue f o)
  | token :: _ =>
    if token ∈ Token.structural then c.reject (.missingValue f o)
    else .ok (literalOf now token, c.skip 1)

/-- Reads a condition. -/
def condition (now : Instant) : Parser Condition := fun c => do
  let (f, c) ← field c
  let (o, c) ← operator f c
  if o.takesList then
    let (items, c) ← listItems f o c
    return (⟨f, o, .list items⟩, c)
  else
    let (value, c) ← scalar now f o c
    return (⟨f, o, value⟩, c)

/-! ## Chains -/

/-- Reads items as long as each of them follows a connective, at most as many as
    the bound says. -/
def manyUpTo (connective : Token) (item : Parser α) : Nat → Parser (List α)
  | 0, c => .ok ([], c)
  | bound + 1, c =>
    if c.isAt connective then do
      let (first, c) ← item (c.skip 1)
      let (others, c) ← manyUpTo connective item bound c
      return (first :: others, c)
    else .ok ([], c)

/-- Reads items as long as each of them follows a connective. -/
def many (connective : Token) (item : Parser α) : Parser (List α) := fun c =>
  manyUpTo connective item c.rest.length c

/-! ## Expressions -/

/-- Terms joined by `||`, grouped to the right: the last term is the innermost right side,
    and the terms before it become left sides, the latest first. -/
def joinTerms (first : Expression) (others : List Expression) : Expression :=
  match others.getLast? with
  | none => first
  | some last => .or first (others.dropLast.foldr .or last)

/-- The first term is the left side of all the others. -/
theorem joinTerms_cons (first second : Expression) (others : List Expression) :
    joinTerms first (second :: others) = .or first (joinTerms second others) := by
  cases others with
  | nil => rfl
  | cons third others =>
    simp only [joinTerms, List.getLast?_cons_cons, List.dropLast_cons_cons]
    cases h : (third :: others).getLast? with
    | none => simp at h
    | some last => rfl

/-- Reads an operand: a group, read by `group` after its opening parenthesis, or a
    condition. -/
def operandWith (now : Instant) (group : Parser Expression) : Parser Expression := fun c =>
  if c.isAt (.bare "(") then group c
  else (condition now c).map fun (condition, c) => (.condition condition, c)

/-- Reads a term: an operand, and conditions after `&&`. -/
def termWith (now : Instant) (group : Parser Expression) : Parser Expression := fun c => do
  let (first, c) ← operandWith now group c
  let (others, c) ← many (.bare "&&") (condition now) c
  return (others.foldl (fun e condition => .and e (.condition condition)) first, c)

/-- Reads an expression: terms joined by `||`. -/
def expressionWith (now : Instant) (group : Parser Expression) : Parser Expression := fun c => do
  let (first, c) ← termWith now group c
  let (others, c) ← many (.bare "||") (termWith now group) c
  return (joinTerms first others, c)

/-- Reads a group in parentheses, of which `inner` reads the inside. -/
def closed (inner : Parser Expression) : Parser Expression := fun c => do
  let (e, c) ← inner (c.skip 1)
  if c.isAt (.bare ")") then .ok (e, c.skip 1) else c.reject .unclosedParenthesis

/-- Reads a group where `allowance` more parentheses may be opened. -/
def group (now : Instant) : (allowance : Nat) → Parser Expression
  | 0 => fun c => c.reject .tooDeep
  | allowance + 1 => closed (expressionWith now (group now allowance))

/-- Reads an operand where `allowance` more parentheses may be opened. -/
def operand (now : Instant) (allowance : Nat) : Parser Expression :=
  operandWith now (group now allowance)

/-- Reads a term where `allowance` more parentheses may be opened. -/
def term (now : Instant) (allowance : Nat) : Parser Expression :=
  termWith now (group now allowance)

/-- Reads an expression where `allowance` more parentheses may be opened. -/
def expression (now : Instant) (allowance : Nat) : Parser Expression :=
  expressionWith now (group now allowance)

end Parser

/-! ## Queries -/

/-- The indexes of the connectives among tokens that stand from `index` on. -/
def connectiveIndexes (index : Nat) : List Token → List Nat
  | [] => []
  | token :: rest =>
    if token = .bare "&&" ∨ token = .bare "||" then index :: connectiveIndexes (index + 1) rest
    else connectiveIndexes (index + 1) rest

/-- The expression that a token stream is. -/
def parseTokens (now : Instant) (tokens : List Token) : Except Rejection Expression :=
  match (connectiveIndexes 0 tokens)[maxConditions - 1]? with
  | some position => .error ⟨.tooManyConditions, position⟩
  | none => do
    let (e, c) ← Parser.expression now maxNesting (.start tokens)
    match c.rest with
    | [] => .ok e
    | token :: _ => c.reject (.unexpectedToken token.text)

/-- The expression that a query is, with `now` standing for an instant; none for a
    query without tokens, which keeps everything. -/
def parseQuery (query : String) (now : Instant) : Except Rejection (Option Expression) :=
  match tokenize query with
  | [] => .ok none
  | tokens => (parseTokens now tokens).map some

/-! ## The bound of a chain -/

namespace Parser

/-- A parser takes at least one token whenever it reads something. -/
def Advances (p : Parser α) : Prop :=
  ∀ c x d, p c = .ok (x, d) → d.rest.length < c.rest.length

/-- A greater bound changes nothing once the bound reaches the tokens left. -/
theorem manyUpTo_eq {item : Parser α} (hitem : item.Advances) (connective : Token) :
    ∀ (m n : Nat) (c : Cursor), c.rest.length ≤ m → c.rest.length ≤ n →
      manyUpTo connective item m c = manyUpTo connective item n c := by
  intro m
  induction m with
  | zero =>
    intro n c hm _
    have hr : c.rest = [] := List.eq_nil_of_length_eq_zero (Nat.le_zero.1 hm)
    cases n <;> simp [manyUpTo, Cursor.isAt, hr]
  | succ m ih =>
    intro n c hm hn
    cases n with
    | zero =>
      have hr : c.rest = [] := List.eq_nil_of_length_eq_zero (Nat.le_zero.1 hn)
      simp [manyUpTo, Cursor.isAt, hr]
    | succ n =>
      simp only [manyUpTo]
      split
      · cases hi : item (c.skip 1) with
        | error r => rfl
        | ok p =>
          obtain ⟨x, d⟩ := p
          have hd := hitem _ _ _ hi
          simp only [Cursor.skip, List.length_drop] at hd
          have := ih n d (by omega) (by omega)
          simp only [bind, Except.bind, this]
      · rfl

/-- The items of a chain after the first, without a bound. -/
theorem many_eq {item : Parser α} (hitem : item.Advances) (connective : Token) (c : Cursor) :
    many connective item c =
      if c.isAt connective then do
        let (first, c) ← item (c.skip 1)
        let (others, c) ← many connective item c
        return (first :: others, c)
      else .ok ([], c) := by
  unfold many
  cases hr : c.rest with
  | nil => simp [manyUpTo, Cursor.isAt, hr]
  | cons token rest =>
    simp only [List.length_cons, manyUpTo]
    split
    · cases hi : item (c.skip 1) with
      | error r => rfl
      | ok p =>
        obtain ⟨x, d⟩ := p
        have hd := hitem _ _ _ hi
        simp only [Cursor.skip, hr, List.length_drop, List.length_cons] at hd
        have := manyUpTo_eq hitem connective rest.length d.rest.length d (by omega) (Nat.le_refl _)
        simp only [bind, Except.bind, this]
    · rfl

end Parser

end TaskQuery
