/-
  TaskQuery — which tokens a value is read from.

  * `DerivesValue now o tokens value`: the tokens are a value that can stand after an
    operator; `derivesCondition_iff`: a condition is a field, an operator and a value;
  * `ReadsValue now phrase n tokens e x values`: in a phrase with the tree `e` the
    value of the condition `x` is read from `values`;
  * `Derives.forall_readsValue`: every condition of a tree has its value from tokens.
-/
import TaskQuery.Proofs.Query.NormalText

namespace TaskQuery

/-! ## Values -/

/-- The grammar of values: a single token that does not structure the query, or tokens
    with the items of a list. -/
inductive DerivesValue (now : Instant) (o : Operator) : List Token → Literal → Prop
  | single {token} : o.takesList = false → token ∉ Token.structural →
      DerivesValue now o [token] (Parser.literalOf now token)
  | list {tokens} : o.takesList = true → (∀ token ∈ tokens, Parser.endsList token = false) →
      tokens.flatMap Parser.itemsOf ≠ [] →
      DerivesValue now o tokens (.list (tokens.flatMap Parser.itemsOf))

/-- The value of a condition `x` of the tree `e` is read from the tokens `values`: in a
    gap of the phrase stand a field, an operator and these tokens, and with `x` in the gap
    the tree of the phrase is `e`. -/
def ReadsValue (now : Instant) (phrase : Phrase) (n : Nat) (tokens : List Token) (e : Expression)
    (x : Condition) (values : List Token) : Prop :=
  ∃ before gap after fill name, Around now phrase n before gap after fill ∧
    name.text = x.field.name ∧ DerivesValue now x.operator values x.value ∧
    tokens = before ++ (name :: (x.operator.tokens ++ values) ++ after) ∧ e = fill (.condition x)

section
variable {now : Instant} {phrase : Phrase} {n : Nat} {tokens more values : List Token}
  {e e' : Expression} {x y : Condition}

theorem derivesCondition_iff : DerivesCondition now tokens x ↔
    ∃ name values, name.text = x.field.name ∧ DerivesValue now x.operator values x.value ∧
      tokens = name :: (x.operator.tokens ++ values) := by
  constructor
  · intro h
    cases h with
    | scalar hname ho hvalue => exact ⟨_, _, hname, .single ho hvalue, rfl⟩
    | list hname ho hitems hne => exact ⟨_, _, hname, .list ho hitems hne, rfl⟩
  · rintro ⟨name, values, hname, hvalue, rfl⟩
    obtain ⟨f, o, v⟩ := x
    cases hvalue with
    | single ho hvalue => exact .scalar hname ho hvalue
    | list ho hitems hne => exact .list hname ho hitems hne

/-- The only structural token in a value is an opening parenthesis, in a list. -/
theorem DerivesValue.eq_open_of_structural {o : Operator} {v : Literal} {token : Token}
    (h : DerivesValue now o values v) (ht : token ∈ values) (hs : token ∈ Token.structural) :
    o.takesList ∧ token = .bare "(" := by
  cases h with
  | single _ hvalue =>
    rw [List.mem_singleton.1 ht] at hs
    exact absurd hs hvalue
  | list ho hitems =>
    have hends : Parser.endsList token = false := hitems token ht
    simp only [Token.structural, List.mem_cons, List.not_mem_nil, or_false] at hs
    rcases hs with rfl | rfl | rfl | rfl
    · exact ⟨ho, rfl⟩
    all_goals exact absurd hends (by decide)

/-! ## Values in phrases -/

namespace ReadsValue

theorem derivesValue (h : ReadsValue now phrase n tokens e x values) :
    DerivesValue now x.operator values x.value := by
  obtain ⟨-, -, -, -, -, -, -, hvalue, -⟩ := h
  exact hvalue

theorem subset (h : ReadsValue now phrase n tokens e x values) : values ⊆ tokens := by
  obtain ⟨before, _, after, _, name, -, -, -, rfl, -⟩ := h
  intro token ht
  simp [ht]

theorem condition {name : Token} (hname : name.text = x.field.name)
    (hvalue : DerivesValue now x.operator values x.value) :
    ReadsValue now .operand n (name :: (x.operator.tokens ++ values)) (.condition x) x values :=
  ⟨[], _, [], id, name, .here, hname, hvalue, by simp, rfl⟩

theorem group (h : ReadsValue now .expression n tokens e x values) :
    ReadsValue now .operand (n + 1) (.bare "(" :: (tokens ++ [.bare ")"])) e x values := by
  obtain ⟨before, gap, after, fill, name, haround, hname, hvalue, rfl, rfl⟩ := h
  exact ⟨_, gap, _, fill, name, .group haround, hname, hvalue, by simp, rfl⟩

theorem operand (h : ReadsValue now .operand n tokens e x values) :
    ReadsValue now .term n tokens e x values := by
  obtain ⟨before, gap, after, fill, name, haround, h⟩ := h
  exact ⟨before, gap, after, fill, name, .operand haround, h⟩

theorem term (h : ReadsValue now .term n tokens e x values) :
    ReadsValue now .expression n tokens e x values := by
  obtain ⟨before, gap, after, fill, name, haround, h⟩ := h
  exact ⟨before, gap, after, fill, name, .term haround, h⟩

theorem andLeft (h : ReadsValue now .term n tokens e x values) (hy : DerivesCondition now more y) :
    ReadsValue now .term n (tokens ++ .bare "&&" :: more) (.and e (.condition y)) x values := by
  obtain ⟨before, gap, after, fill, name, haround, hname, hvalue, rfl, rfl⟩ := h
  exact ⟨before, gap, _, _, name, .andMore haround hy, hname, hvalue, by simp, rfl⟩

theorem andRight (h : Derives now .term n tokens e) {name : Token} (hname : name.text = y.field.name)
    (hvalue : DerivesValue now y.operator values y.value) :
    ReadsValue now .term n (tokens ++ .bare "&&" :: name :: (y.operator.tokens ++ values))
      (.and e (.condition y)) y values :=
  ⟨_, _, [], _, name, .and h, hname, hvalue, by simp, rfl⟩

theorem orLeft (h : ReadsValue now .term n tokens e x values)
    (he' : Derives now .expression n more e') :
    ReadsValue now .expression n (tokens ++ .bare "||" :: more) (.or e e') x values := by
  obtain ⟨before, gap, after, fill, name, haround, hname, hvalue, rfl, rfl⟩ := h
  exact ⟨before, gap, _, _, name, .orMore haround he', hname, hvalue, by simp, rfl⟩

theorem orRight (he : Derives now .term n tokens e)
    (h : ReadsValue now .expression n more e' x values) :
    ReadsValue now .expression n (tokens ++ .bare "||" :: more) (.or e e') x values := by
  obtain ⟨before, gap, after, fill, name, haround, hname, hvalue, rfl, rfl⟩ := h
  exact ⟨_, gap, after, _, name, .or he haround, hname, hvalue, by simp, rfl⟩

end ReadsValue

theorem Expression.Forall.imp {P Q : Condition → Prop} (hPQ : ∀ x, P x → Q x) (h : e.Forall P) :
    e.Forall Q := by
  induction e with
  | condition x => exact hPQ x h
  | joined _ _ _ ihl ihr => exact ⟨ihl h.1, ihr h.2⟩

/-- **Every condition of a tree has its value from tokens of the phrase.** -/
theorem Derives.forall_readsValue (h : Derives now phrase n tokens e) :
    e.Forall fun x => ∃ values, ReadsValue now phrase n tokens e x values := by
  induction h with
  | condition hx =>
    obtain ⟨name, values, hname, hvalue, rfl⟩ := derivesCondition_iff.1 hx
    exact ⟨values, .condition hname hvalue⟩
  | group _ ih => exact ih.imp fun _ ⟨values, h⟩ => ⟨values, h.group⟩
  | operand _ ih => exact ih.imp fun _ ⟨values, h⟩ => ⟨values, h.operand⟩
  | term _ ih => exact ih.imp fun _ ⟨values, h⟩ => ⟨values, h.term⟩
  | and he hy ih =>
    refine ⟨ih.imp fun _ ⟨values, h⟩ => ⟨values, h.andLeft hy⟩, ?_⟩
    obtain ⟨name, values, hname, hvalue, rfl⟩ := derivesCondition_iff.1 hy
    exact ⟨values, .andRight he hname hvalue⟩
  | or he he' ih ih' =>
    exact ⟨ih.imp fun _ ⟨values, h⟩ => ⟨values, h.orLeft he'⟩,
      ih'.imp fun _ ⟨values, h⟩ => ⟨values, h.orRight he⟩⟩

end

end TaskQuery
