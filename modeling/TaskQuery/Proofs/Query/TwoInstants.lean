/-
  TaskQuery — a query at two instants.

  The instant at which a query is read settles what an unquoted `now` stands for, and
  nothing else.

  * `Twins now now' tokens e e'`: at the two instants the tokens have the trees `e` and
    `e'`, which are alike but for the values of unquoted `now`;
  * `Derives.twins`: what is a phrase at one instant is one at any other, with a twin of
    its tree;
  * `Fault.at_instant`: what does not go on a query at one instant does not at any other;
  * `rejection? query now`: the rejection of a query, if it is rejected; by `rejection?_eq` it
    is the same at all instants;
  * `parseQuery_twins`: what a query is at two instants.
-/
import TaskQuery.Proofs.Query.Fault

namespace TaskQuery

/-! ## Trees at two instants -/

/-- The tokens have the tree `e` at the instant `now` and `e'` at `now'`: both are built alike
    from the same parts of the tokens, with the same conditions, except that the value of a
    condition may be an unquoted `now`. -/
inductive Twins (now now' : Instant) : List Token → Expression → Expression → Prop
  | same {tokens x} : DerivesCondition now tokens x → DerivesCondition now' tokens x →
      Twins now now' tokens (.condition x) (.condition x)
  | current {name f o} : name.text = Field.name f → Operator.takesList o = false →
      Twins now now' (name :: (o.tokens ++ [.bare "now"]))
        (.condition ⟨f, o, .text now.toText⟩) (.condition ⟨f, o, .text now'.toText⟩)
  | group {tokens e e'} : Twins now now' tokens e e' →
      Twins now now' (.bare "(" :: (tokens ++ [.bare ")"])) e e'
  | joined (connective : Connective) {left right d d' e e'} : Twins now now' left d d' →
      Twins now now' right e e' →
      Twins now now' (left ++ .bare connective.symbol :: right)
        (.joined connective d e) (.joined connective d' e')

variable {now now' : Instant} {phrase : Phrase} {n : Nat} {tokens used before after : List Token}
  {gap : Gap} {fill : Expression → Expression} {e e' : Expression} {x : Condition} {d : Cursor}
  {r : Rejection} {cause : Rejection.Cause} {query : String}

theorem Twins.last_operator (h : Twins now now' tokens e e') :
    e'.last.operator = e.last.operator := by
  induction h with
  | same | current => simp only [Expression.last]
  | group _ ih | joined _ _ _ _ ih => exact ih

theorem Cursor.Bounds.twins (hbounds : d.Bounds tokens e) (h : Twins now now' tokens e e') :
    d.Bounds tokens e' := by
  intro hlast ho
  rw [h.last_operator] at ho
  exact hbounds hlast ho

/-! ## Phrases -/

theorem Parser.literalOf_now (now : Instant) : literalOf now (.bare "now") = .text now.toText := by
  simp [literalOf]

/-- No other token has a value that depends on the instant. -/
theorem Parser.literalOf_congr {token : Token} (h : token ≠ .bare "now") (now now' : Instant) :
    literalOf now' token = literalOf now token := by
  unfold literalOf
  cases hq : token.quoted with
  | true => simp only [if_true]
  | false =>
    have hnow : token.text ≠ "now" := fun htext => h (by rw [Token.eq_bare hq, htext])
    simp only [Bool.false_eq_true, if_false, if_neg hnow]

theorem DerivesCondition.twins (h : DerivesCondition now tokens x) (now' : Instant) :
    ∃ x', DerivesCondition now' tokens x' ∧
      Twins now now' tokens (.condition x) (.condition x') := by
  cases h with
  | @scalar name value f o hname ho hvalue =>
    by_cases hnow : value = .bare "now"
    · subst hnow
      refine ⟨_, .scalar hname ho hvalue, ?_⟩
      rw [Parser.literalOf_now, Parser.literalOf_now]
      exact .current hname ho
    · refine ⟨_, .scalar hname ho hvalue, ?_⟩
      rw [Parser.literalOf_congr hnow now now']
      refine .same (.scalar hname ho hvalue) ?_
      rw [← Parser.literalOf_congr hnow now now']
      exact .scalar hname ho hvalue
  | list hname ho hitems hne =>
    exact ⟨_, .list hname ho hitems hne, .same (.list hname ho hitems hne) (.list hname ho hitems hne)⟩

/-- **What is a phrase at one instant is one at any other**, with a twin of its tree. -/
theorem Derives.twins (h : Derives now phrase n tokens e) (now' : Instant) :
    ∃ e', Derives now' phrase n tokens e' ∧ Twins now now' tokens e e' := by
  induction h with
  | condition hx =>
    obtain ⟨x', hx', htwins⟩ := hx.twins now'
    exact ⟨_, .condition hx', htwins⟩
  | group _ ih =>
    obtain ⟨e', he', htwins⟩ := ih
    exact ⟨e', .group he', .group htwins⟩
  | operand _ ih =>
    obtain ⟨e', he', htwins⟩ := ih
    exact ⟨e', .operand he', htwins⟩
  | and _ hx ih =>
    obtain ⟨e', he', htwins⟩ := ih
    obtain ⟨x', hx', hxtwins⟩ := hx.twins now'
    exact ⟨_, .and he' hx', .joined .and htwins hxtwins⟩
  | term _ ih =>
    obtain ⟨e', he', htwins⟩ := ih
    exact ⟨e', .term he', htwins⟩
  | or _ _ ih ih' =>
    obtain ⟨d', hd', hdtwins⟩ := ih
    obtain ⟨e', he', hetwins⟩ := ih'
    exact ⟨_, .or hd' he', .joined .or hdtwins hetwins⟩

theorem Grammatical.twins (h : Grammatical now tokens e) (now' : Instant) :
    ∃ e', Grammatical now' tokens e' ∧ Twins now now' tokens e e' := by
  obtain ⟨e', he', htwins⟩ := h.2.twins now'
  exact ⟨e', ⟨h.1, he'⟩, htwins⟩

/-! ## Faults -/

/-- The same tokens stand around a gap at any other instant. -/
theorem Around.at_instant (h : Around now phrase n before gap after fill) (now' : Instant) :
    ∃ fill', Around now' phrase n before gap after fill' := by
  induction h with
  | here => exact ⟨_, .here⟩
  | group _ ih => exact ih.imp fun _ h => .group h
  | operand _ ih => exact ih.imp fun _ h => .operand h
  | and he =>
    obtain ⟨e', he', -⟩ := he.twins now'
    exact ⟨_, .and he'⟩
  | andMore _ hx ih =>
    obtain ⟨fill', hfill⟩ := ih
    obtain ⟨x', hx', -⟩ := hx.twins now'
    exact ⟨_, .andMore hfill hx'⟩
  | term _ ih => exact ih.imp fun _ h => .term h
  | or he _ ih =>
    obtain ⟨e', he', -⟩ := he.twins now'
    obtain ⟨fill', hfill⟩ := ih
    exact ⟨_, .or he' hfill⟩
  | orMore _ he ih =>
    obtain ⟨fill', hfill⟩ := ih
    obtain ⟨e', he', -⟩ := he.twins now'
    exact ⟨_, .orMore hfill he'⟩

theorem Gap.Blocked.at_instant (h : gap.Blocked now used d cause) (now' : Instant) :
    gap.Blocked now' used d cause := by
  cases h with
  | condition hmisfit => exact .condition hmisfit
  | operand hmisfit hat => exact .operand hmisfit hat
  | tooDeep hat => exact .tooDeep hat
  | unclosed he hbounds hstops hat =>
    obtain ⟨e', he', htwins⟩ := he.twins now'
    exact .unclosed he' (hbounds.twins htwins) hstops hat

/-- **What does not go on a query at one instant does not at any other.** -/
theorem Fault.at_instant (h : Fault now used d cause) (now' : Instant) : Fault now' used d cause := by
  cases h with
  | blocked haround hblocked =>
    obtain ⟨fill', haround'⟩ := haround.at_instant now'
    exact .blocked haround' (hblocked.at_instant now')
  | leftOver he hbounds hstops hr =>
    obtain ⟨e', he', htwins⟩ := he.twins now'
    exact .leftOver he' (hbounds.twins htwins) hstops hr

theorem parseTokens_error_at_instant (h : parseTokens now tokens = .error r) (now' : Instant) :
    parseTokens now' tokens = .error r := by
  rw [parseTokens_eq_error_iff] at h ⊢
  refine h.imp_right fun ⟨hcount, used, d, hp, hfault, hposition⟩ => ?_
  exact ⟨hcount, used, d, hp, hfault.at_instant now', hposition⟩

/-! ## Queries -/

/-- The rejection of a query, if it is rejected. -/
def rejection? (query : String) (now : Instant) : Option Rejection :=
  match parseQuery query now with
  | .ok _ => none
  | .error r => some r

theorem rejection?_eq_some_iff : rejection? query now = some r ↔ parseQuery query now = .error r := by
  unfold rejection?
  cases parseQuery query now <;> simp

/-- **A query is rejected at all instants alike.** -/
theorem rejection?_eq (query : String) (now now' : Instant) :
    rejection? query now = rejection? query now' := by
  have hrejects {now now' : Instant} {r : Rejection} (h : rejection? query now = some r) :
      rejection? query now' = some r := by
    rw [rejection?_eq_some_iff, parseQuery_rejects_iff] at h ⊢
    exact ⟨h.1, parseTokens_error_at_instant h.2 now'⟩
  exact Option.ext fun r => ⟨hrejects, hrejects⟩

/-- **A query at two instants** is rejected for the same, or is empty, or has trees that
    are twins. -/
theorem parseQuery_twins (query : String) (now now' : Instant) :
    (∃ r, parseQuery query now = .error r ∧ parseQuery query now' = .error r) ∨
    (parseQuery query now = .ok none ∧ parseQuery query now' = .ok none) ∨
    ∃ e e', parseQuery query now = .ok (some e) ∧ parseQuery query now' = .ok (some e') ∧
      Twins now now' (tokenize query) e e' := by
  cases h : parseQuery query now with
  | error r =>
    have hr := rejection?_eq query now now'
    rw [rejection?_eq_some_iff.2 h, eq_comm, rejection?_eq_some_iff] at hr
    exact Or.inl ⟨r, rfl, hr⟩
  | ok filter =>
    cases filter with
    | none =>
      have hempty : parseQuery query now' = .ok none :=
        parseQuery_eq_none_iff.2 (parseQuery_eq_none_iff.1 h)
      exact Or.inr (Or.inl ⟨rfl, hempty⟩)
    | some e =>
      obtain ⟨e', he', htwins⟩ := (parseQuery_eq_some_iff.1 h).twins now'
      exact Or.inr (Or.inr ⟨e, e', rfl, parseQuery_eq_some_iff.2 he', htwins⟩)

end TaskQuery
