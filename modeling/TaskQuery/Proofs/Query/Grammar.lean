/-
  TaskQuery — the grammar of queries.

  * `DerivesCondition now tokens x`: the grammar of conditions.  A condition is a
    field, an operator and a single value, or for `in` and `not in` a list;
  * `Derives now phrase n tokens e`: the grammar of phrases.  An expression is a
    term, or a term, `||` and an expression; a term is an operand, or a term, `&&`
    and a condition; an operand is a condition, or an expression in parentheses,
    which nest at most `n` deep;
  * `Grammatical now tokens e`: the tokens are an expression within the limits;
  * `Derives.countP_joins`: there are as many `&&` and `||` among the tokens as
    there are connectives in the tree;
  * `Derives.mono`: the limit on nesting can be raised.
-/
import TaskQuery.Query.Parsing

namespace TaskQuery

/-! ## Conditions -/

/-- The tokens of an operator. -/
def Operator.tokens : Operator → List Token
  | .notIn => [.bare "not", .bare "in"]
  | o => [.bare o.symbol]

theorem Operator.tokens_of_ne {o : Operator} (h : o ≠ .notIn) : o.tokens = [.bare o.symbol] := by
  cases o with
  | notIn => exact absurd rfl h
  | _ => rfl

theorem Operator.symbol_ne_not (o : Operator) : o.symbol ≠ "not" := by
  cases o <;> decide

/-- The grammar of conditions: a field, quoted or not, an operator, and a single
    value or the items of a list. -/
inductive DerivesCondition (now : Instant) : List Token → Condition → Prop
  | scalar {name value : Token} {f : Field} {o : Operator} :
      name.text = f.name → o.takesList = false → value ∉ Token.structural →
      DerivesCondition now (name :: (o.tokens ++ [value])) ⟨f, o, Parser.literalOf now value⟩
  | list {name : Token} {f : Field} {o : Operator} {items : List Token} :
      name.text = f.name → o.takesList = true → (∀ token ∈ items, Parser.endsList token = false) →
      items.flatMap Parser.itemsOf ≠ [] →
      DerivesCondition now (name :: (o.tokens ++ items)) ⟨f, o, .list (items.flatMap Parser.itemsOf)⟩

/-! ## Tokens that join, and literals -/

theorem Token.eq_bare {token : Token} (h : token.quoted = false) : token = .bare token.text := by
  cases token
  cases h
  rfl

/-- Whether a token is an unquoted connective. -/
def Token.joins (token : Token) : Bool :=
  token = .bare "&&" || token = .bare "||"

theorem Token.endsList_of_joins {token : Token} (h : token.joins) : Parser.endsList token := by
  simp only [joins, Bool.or_eq_true, decide_eq_true_eq] at h
  rcases h with rfl | rfl <;> decide

theorem Token.structural_of_endsList {token : Token} (h : Parser.endsList token) :
    token ∈ structural := by
  simp only [Parser.endsList, Bool.or_eq_true, decide_eq_true_eq] at h
  rcases h with (rfl | rfl) | rfl <;> decide

theorem Token.structural_of_joins {token : Token} (h : token.joins) : token ∈ structural :=
  structural_of_endsList (endsList_of_joins h)

/-- A literal structures nothing. -/
theorem Token.literal_not_structural (text : String) : literal text ∉ structural := by
  simp [structural]

@[simp] theorem Token.joins_literal (text : String) : (literal text).joins = false := by
  simp [joins]

@[simp] theorem Parser.endsList_literal (text : String) : endsList (.literal text) = false := by
  simp [endsList]

@[simp] theorem Parser.itemsOf_literal (text : String) : itemsOf (.literal text) = [text] := rfl

theorem Field.not_structural {name : Token} {f : Field} (h : name.text = f.name) :
    name ∉ Token.structural := by
  intro hs
  simp only [Token.structural, List.mem_cons, List.not_mem_nil, or_false] at hs
  rcases hs with rfl | rfl | rfl | rfl <;> cases f <;> simp [Field.name] at h

theorem Operator.not_structural {o : Operator} : ∀ token ∈ o.tokens, token ∉ Token.structural := by
  cases o <;> decide

/-- The number of connectives among the tokens that stand from `index` on. -/
theorem length_connectiveIndexes (index : Nat) (tokens : List Token) :
    (connectiveIndexes index tokens).length = tokens.countP Token.joins := by
  induction tokens generalizing index with
  | nil => rfl
  | cons token rest ih =>
    by_cases h : token = .bare "&&" ∨ token = .bare "||"
    · rw [connectiveIndexes, if_pos h, List.countP_cons_of_pos (by simpa [Token.joins] using h),
        List.length_cons, ih]
    · rw [connectiveIndexes, if_neg h, List.countP_cons_of_neg (by simpa [Token.joins] using h), ih]

/-! ## The grammar -/

/-- The kinds of phrases that are built from conditions. -/
inductive Phrase where
  /-- A condition, or an expression in parentheses. -/
  | operand
  /-- An operand and conditions, joined by `&&`. -/
  | term
  /-- Terms joined by `||`. -/
  | expression

/-- The grammar of phrases, with parentheses that nest at most `n` deep: the
    tokens are a phrase with the tree `e`. -/
inductive Derives (now : Instant) : Phrase → (n : Nat) → List Token → (e : Expression) → Prop
  | condition {n tokens x} : DerivesCondition now tokens x →
      Derives now .operand n tokens (.condition x)
  | group {n tokens e} : Derives now .expression n tokens e →
      Derives now .operand (n + 1) (.bare "(" :: (tokens ++ [.bare ")"])) e
  | operand {n tokens e} : Derives now .operand n tokens e → Derives now .term n tokens e
  | and {n tokens more e x} : Derives now .term n tokens e → DerivesCondition now more x →
      Derives now .term n (tokens ++ .bare "&&" :: more) (.and e (.condition x))
  | term {n tokens e} : Derives now .term n tokens e → Derives now .expression n tokens e
  | or {n tokens more e e'} : Derives now .term n tokens e → Derives now .expression n more e' →
      Derives now .expression n (tokens ++ .bare "||" :: more) (.or e e')

/-- The tokens are an expression with the tree `e`, within the limits of a query. -/
def Grammatical (now : Instant) (tokens : List Token) (e : Expression) : Prop :=
  tokens.countP Token.joins < maxConditions ∧ Derives now .expression maxNesting tokens e

/-! ## Derivations -/

section
variable {now : Instant} {phrase : Phrase} {n : Nat} {tokens : List Token} {e : Expression}

theorem DerivesCondition.ne_nil {x : Condition} (h : DerivesCondition now tokens x) :
    tokens ≠ [] := by
  cases h <;> exact List.cons_ne_nil _ _

theorem DerivesCondition.one_lt_length {x : Condition} (h : DerivesCondition now tokens x) :
    1 < tokens.length := by
  have hpos : ∀ o : Operator, 0 < o.tokens.length := by
    intro o
    cases o <;> decide
  cases h with
  | @scalar _ _ _ o =>
    have := hpos o
    simp only [List.length_cons, List.length_append]
    omega
  | @list _ _ o =>
    have := hpos o
    simp only [List.length_cons, List.length_append]
    omega

/-- No condition begins with a parenthesis or a connective. -/
theorem DerivesCondition.head_not_structural {x : Condition} (h : DerivesCondition now tokens x) :
    ∀ token ∈ tokens.head?, token ∉ Token.structural := by
  intro token ht
  cases h with
  | scalar hname | list hname =>
    cases ht
    exact Field.not_structural hname

/-- No condition ends in a closing parenthesis or a connective. -/
theorem DerivesCondition.getLast_endsList {x : Condition} (h : DerivesCondition now tokens x) :
    ∀ token ∈ tokens.getLast?, ¬ Parser.endsList token := by
  intro token ht
  cases h with
  | @scalar name value f o hname ho hvalue =>
    rw [← List.cons_append, List.getLast?_append] at ht
    cases ht
    exact fun hends => hvalue (Token.structural_of_endsList hends)
  | @list name f o items hname ho hitems hne =>
    have hsome : items ≠ [] := by
      rintro rfl
      exact hne rfl
    rw [← List.cons_append, List.getLast?_append, List.getLast?_eq_some_getLast hsome] at ht
    cases ht
    rw [hitems _ (List.getLast_mem hsome)]
    exact Bool.false_ne_true

theorem Derives.ne_nil (h : Derives now phrase n tokens e) : tokens ≠ [] := by
  induction h with
  | condition hx => exact hx.ne_nil
  | group => exact List.cons_ne_nil _ _
  | operand _ ih | term _ ih => exact ih
  | and _ _ ih | or _ _ ih _ => exact fun h => ih (List.append_eq_nil_iff.1 h).1

theorem Derives.mono (h : Derives now phrase n tokens e) :
    ∀ {m}, n ≤ m → Derives now phrase m tokens e := by
  induction h with
  | condition hx => exact fun _ => .condition hx
  | group _ ih =>
    intro m hm
    cases m with
    | zero => omega
    | succ m => exact .group (ih (Nat.le_of_succ_le_succ hm))
  | operand _ ih => exact fun hm => .operand (ih hm)
  | and _ hx ih => exact fun hm => .and (ih hm) hx
  | term _ ih => exact fun hm => .term (ih hm)
  | or _ _ ih ih' => exact fun hm => .or (ih hm) (ih' hm)

theorem DerivesCondition.countP_joins {x : Condition} (h : DerivesCondition now tokens x) :
    tokens.countP Token.joins = 0 := by
  rw [List.countP_eq_zero]
  intro token ht hj
  have hs := Token.structural_of_joins hj
  cases h with
  | scalar hname ho hvalue =>
    simp only [List.mem_cons, List.mem_append, List.not_mem_nil, or_false] at ht
    rcases ht with rfl | ht | rfl
    · exact Field.not_structural hname hs
    · exact Operator.not_structural _ ht hs
    · exact hvalue hs
  | list hname ho hitems hne =>
    simp only [List.mem_cons, List.mem_append] at ht
    rcases ht with rfl | ht | ht
    · exact Field.not_structural hname hs
    · exact Operator.not_structural _ ht hs
    · exact absurd (Token.endsList_of_joins hj) (by simp [hitems _ ht])

/-- There are as many `&&` and `||` among the tokens as connectives in the tree. -/
theorem Derives.countP_joins (h : Derives now phrase n tokens e) :
    tokens.countP Token.joins = e.connectives := by
  induction h with
  | condition hx => exact hx.countP_joins
  | group _ ih =>
    rw [List.countP_cons_of_neg (by decide), List.countP_append, ih]
    rfl
  | operand _ ih | term _ ih => exact ih
  | and _ hx ih =>
    rw [List.countP_append, List.countP_cons_of_pos (by decide), ih, hx.countP_joins]
    rfl
  | or _ _ ih ih' =>
    rw [List.countP_append, List.countP_cons_of_pos (by decide), ih, ih']
    rfl

end

end TaskQuery
