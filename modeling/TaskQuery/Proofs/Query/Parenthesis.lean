/-
  TaskQuery — parentheses in queries.

  In a query that is accepted no parenthesis is closed that is not open.  Values are read
  in two ways: a single value is never an unquoted parenthesis, but a list goes on over
  opening parentheses, which then stand among its items and are closed by nothing.

  * `excess tokens`: how many more parentheses are opened than closed;
  * `Nested tokens`: no closing parenthesis stands where none is open;
    `Derives.nested`: so it is in every phrase;
  * `Around.excess_nonneg`: what stands around a gap opens enough parentheses without it;
  * `ReadsValue.excess_pos` and `Derives.excess_eq_zero`: what is not closed is in a list;
  * `parentheses_balanced_iff`: where the parentheses of a query are.
-/
import TaskQuery.Proofs.Query.ValueTokens

namespace TaskQuery

/-! ## Open parentheses -/

/-- How many more unquoted parentheses are opened than closed among tokens. -/
def excess (tokens : List Token) : Int :=
  tokens.count (.bare "(") - tokens.count (.bare ")")

/-- No closing parenthesis stands where none is open. -/
def Nested (tokens : List Token) : Prop :=
  ∀ i, 0 ≤ excess (tokens.take i)

section
variable {now : Instant} {phrase : Phrase} {n : Nat} {tokens more values before after : List Token}
  {gap : Gap} {fill : Expression → Expression} {e : Expression} {x : Condition}

@[simp] theorem excess_nil : excess [] = 0 := rfl

@[simp] theorem excess_append : excess (tokens ++ more) = excess tokens + excess more := by
  simp only [excess, List.count_append]
  omega

@[simp] theorem excess_cons_open : excess (.bare "(" :: tokens) = excess tokens + 1 := by
  simp [excess]
  omega

@[simp] theorem excess_close : excess [.bare ")"] = -1 := rfl

@[simp] theorem excess_cons_and : excess (.bare "&&" :: tokens) = excess tokens := by
  simp [excess]

@[simp] theorem excess_cons_or : excess (.bare "||" :: tokens) = excess tokens := by
  simp [excess]

theorem Nested.excess_nonneg (h : Nested tokens) : 0 ≤ excess tokens := by
  have hall := h tokens.length
  rwa [List.take_length] at hall

theorem nested_of_not_mem (h : .bare ")" ∉ tokens) : Nested tokens := by
  intro i
  have hcloses : (tokens.take i).count (.bare ")") = 0 :=
    List.count_eq_zero.2 fun hmem => h (List.mem_of_mem_take hmem)
  rw [excess, hcloses]
  omega

theorem Nested.append (h : Nested tokens) (hmore : Nested more) : Nested (tokens ++ more) := by
  intro i
  rw [List.take_append, excess_append]
  exact Int.add_nonneg (h i) (hmore _)

theorem Nested.joined (h : Nested tokens) (hmore : Nested more) {joint : Token}
    (hj : joint ≠ .bare ")") : Nested (tokens ++ joint :: more) := by
  have hjoint : Nested [joint] := nested_of_not_mem fun hmem => hj (List.mem_singleton.1 hmem).symm
  exact h.append (hjoint.append hmore)

theorem Nested.group (h : Nested tokens) : Nested (.bare "(" :: (tokens ++ [.bare ")"])) := by
  intro i
  cases i with
  | zero => exact Int.le_refl 0
  | succ i =>
    -- the last parenthesis closes the first, if the prefix reaches it
    have hlast (j : Nat) : -1 ≤ excess ([Token.bare ")"].take j) := by
      cases j <;> simp [excess]
    have hinner := h i
    have hclose := hlast (i - tokens.length)
    rw [List.take_succ_cons, List.take_append, excess_cons_open, excess_append]
    omega

/-! ## Parentheses in phrases -/

theorem DerivesValue.close_not_mem {o : Operator} {v : Literal} (h : DerivesValue now o values v) :
    .bare ")" ∉ values := by
  intro hmem
  exact absurd (h.eq_open_of_structural hmem (by decide)).2 (by decide)

/-- The only parentheses of a condition are the opening ones in its value. -/
theorem DerivesValue.excess_condition {name : Token} {f : Field} {o : Operator} {v : Literal}
    (h : DerivesValue now o values v) (hname : name.text = f.name) :
    excess (name :: (o.tokens ++ values)) = values.count (.bare "(") := by
  have hcount {paren : Token} (hs : paren ∈ Token.structural) :
      (name :: (o.tokens ++ values)).count paren = values.count paren := by
    have hfield : name ≠ paren := by
      rintro rfl
      exact Field.not_structural hname hs
    have hoperator : o.tokens.count paren = 0 :=
      List.count_eq_zero.2 fun hmem => Operator.not_structural paren hmem hs
    rw [List.count_cons_of_ne hfield, List.count_append, hoperator, Nat.zero_add]
  rw [excess, hcount (by decide), hcount (by decide), List.count_eq_zero.2 h.close_not_mem]
  omega

theorem DerivesCondition.nested (h : DerivesCondition now tokens x) : Nested tokens := by
  obtain ⟨name, values, hname, hvalue, rfl⟩ := derivesCondition_iff.1 h
  refine nested_of_not_mem fun hmem => ?_
  simp only [List.mem_cons, List.mem_append] at hmem
  rcases hmem with rfl | hmem | hmem
  · exact Field.not_structural hname (by decide)
  · exact Operator.not_structural _ hmem (by decide)
  · exact hvalue.close_not_mem hmem

/-- **No phrase closes a parenthesis that is not open.** -/
theorem Derives.nested (h : Derives now phrase n tokens e) : Nested tokens := by
  induction h with
  | condition hx => exact hx.nested
  | group _ ih => exact ih.group
  | operand _ ih | term _ ih => exact ih
  | and _ hx ih => exact ih.joined hx.nested (by decide)
  | or _ _ ih ih' => exact ih.joined ih' (by decide)

/-- **What stands around a gap opens enough parentheses**, without those in the gap. -/
theorem Around.excess_nonneg (h : Around now phrase n before gap after fill) :
    0 ≤ excess before + excess after := by
  induction h with
  | here => exact Int.le_refl 0
  | group _ ih =>
    simp only [excess_cons_open, excess_append, excess_close]
    omega
  | operand _ ih | term _ ih => exact ih
  | and he =>
    have hterm := he.nested.excess_nonneg
    simpa using hterm
  | andMore _ hx ih =>
    have hmore := hx.nested.excess_nonneg
    simp only [excess_append, excess_cons_and]
    omega
  | or he _ ih =>
    have hterm := he.nested.excess_nonneg
    simp only [excess_append, excess_cons_or]
    omega
  | orMore _ he' ih =>
    have hmore := he'.nested.excess_nonneg
    simp only [excess_append, excess_cons_or]
    omega

/-- A parenthesis among the items of a list is not closed. -/
theorem ReadsValue.excess_pos (h : ReadsValue now phrase n tokens e x values)
    (hopen : .bare "(" ∈ values) : 0 < excess tokens := by
  obtain ⟨before, gap, after, fill, name, haround, hname, hvalue, rfl, -⟩ := h
  have hother := haround.excess_nonneg
  have hitem : 0 < values.count (.bare "(") := List.count_pos_iff.2 hopen
  simp only [excess_append, hvalue.excess_condition hname]
  omega

/-- **As many parentheses are closed as opened**, if none is among the items of a
    list. -/
theorem Derives.excess_eq_zero (h : Derives now phrase n tokens e)
    (hlists : ∀ x values, ReadsValue now phrase n tokens e x values → .bare "(" ∉ values) :
    excess tokens = 0 := by
  have hcondition {name : Token} {x : Condition} {values : List Token}
      (hname : name.text = x.field.name) (hvalue : DerivesValue now x.operator values x.value)
      (hopen : .bare "(" ∉ values) :
      excess (name :: (x.operator.tokens ++ values)) = 0 := by
    rw [hvalue.excess_condition hname, List.count_eq_zero.2 hopen]
    rfl
  induction h with
  | condition hx =>
    obtain ⟨name, values, hname, hvalue, rfl⟩ := derivesCondition_iff.1 hx
    exact hcondition hname hvalue (hlists _ _ (.condition hname hvalue))
  | group _ ih =>
    have hinner := ih fun x values hreads => hlists x values hreads.group
    simp [hinner]
  | operand _ ih => exact ih fun x values hreads => hlists x values hreads.operand
  | term _ ih => exact ih fun x values hreads => hlists x values hreads.term
  | and he hx ih =>
    have hleft := ih fun x values hreads => hlists x values (hreads.andLeft hx)
    obtain ⟨name, values, hname, hvalue, rfl⟩ := derivesCondition_iff.1 hx
    have hright := hcondition hname hvalue (hlists _ _ (.andRight he hname hvalue))
    simp [hleft, hright]
  | or he he' ih ih' =>
    have hleft := ih fun x values hreads => hlists x values (hreads.orLeft he')
    have hright := ih' fun x values hreads => hlists x values (.orRight he hreads)
    simp [hleft, hright]

end

/-! ## Parentheses in queries -/

/-- **Where the parentheses of a query are.**  In a query that is accepted no prefix closes
    more parentheses than it opens, and the only unquoted token that structures queries
    and yet stands in a value is an opening parenthesis among the items of a list.  As
    many parentheses are closed as opened exactly if there is no such list. -/
theorem parentheses_balanced_iff {query : String} {now : Instant} {e : Expression}
    (h : parseQuery query now = .ok (some e)) :
    (∀ i, ((tokenize query).take i).count (.bare ")") ≤ ((tokenize query).take i).count (.bare "(")) ∧
    (∀ x values, ReadsValue now .expression maxNesting (tokenize query) e x values →
      ∀ token ∈ values, token ∈ Token.structural → x.operator.takesList ∧ token = .bare "(") ∧
    ((tokenize query).count (.bare "(") = (tokenize query).count (.bare ")") ↔
      ∀ x values, ReadsValue now .expression maxNesting (tokenize query) e x values →
        ∀ token ∈ values, token ∉ Token.structural) := by
  obtain ⟨-, hderives⟩ := parseQuery_eq_some_iff.1 h
  refine ⟨fun i => ?_, fun x values hreads token ht hs => ?_, ?_⟩
  · have hprefix := hderives.nested i
    unfold excess at hprefix
    omega
  · exact hreads.derivesValue.eq_open_of_structural ht hs
  constructor
  · intro hbalanced x values hreads token ht hs
    rw [(hreads.derivesValue.eq_open_of_structural ht hs).2] at ht
    have hpos := hreads.excess_pos ht
    unfold excess at hpos
    omega
  · intro hvalues
    have hzero := hderives.excess_eq_zero fun x values hreads hopen =>
      hvalues x values hreads _ hopen (by decide)
    unfold excess at hzero
    omega

/-- Parentheses around groups and in quotes. -/
theorem parentheses_balanced_groups : ∃ e,
    parseQuery "((labels in \"(\", a) && project = \")\") || done = true" ⟨0, 0⟩ = .ok (some e) ∧
    ∀ x values, ReadsValue ⟨0, 0⟩ .expression maxNesting
        (tokenize "((labels in \"(\", a) && project = \")\") || done = true") e x values →
      ∀ token ∈ values, token ∉ Token.structural := by
  have haccepted :
      parseQuery "((labels in \"(\", a) && project = \")\") || done = true" ⟨0, 0⟩ =
        .ok (some (.or (.and (.condition ⟨.labels, .isIn, .list ["(", "a"]⟩)
          (.condition ⟨.project, .eq, .text ")"⟩)) (.condition ⟨.done, .eq, .bool true⟩))) := by
    rfl
  exact ⟨_, haccepted, (parentheses_balanced_iff haccepted).2.2.1 (by decide +kernel)⟩

/-- A list that begins with a parenthesis: it is an item of the list, and is not closed. -/
theorem parentheses_open_in_list :
    parseQuery "labels in (a" ⟨0, 0⟩ =
        .ok (some (.condition ⟨.labels, .isIn, .list ["(", "a"]⟩)) ∧
      (tokenize "labels in (a").count (.bare "(") = 1 ∧
      (tokenize "labels in (a").count (.bare ")") = 0 ∧
      ∃ values, ReadsValue ⟨0, 0⟩ .expression maxNesting (tokenize "labels in (a")
          (.condition ⟨.labels, .isIn, .list ["(", "a"]⟩) ⟨.labels, .isIn, .list ["(", "a"]⟩ values ∧
        .bare "(" ∈ values := by
  have htokens : tokenize "labels in (a" =
      [.bare "labels", .bare "in", .bare "(", .bare "a"] := by decide +kernel
  have hvalue : DerivesValue ⟨0, 0⟩ .isIn [.bare "(", .bare "a"] (.list ["(", "a"]) :=
    .list rfl (by decide) (by decide)
  have hreads : ReadsValue ⟨0, 0⟩ .operand maxNesting (tokenize "labels in (a")
      (.condition ⟨.labels, .isIn, .list ["(", "a"]⟩) ⟨.labels, .isIn, .list ["(", "a"]⟩
      [.bare "(", .bare "a"] := by
    have hname : (Token.bare "labels").text = Field.labels.name := rfl
    rw [htokens]
    exact .condition hname hvalue
  exact ⟨by rfl, by rw [htokens]; decide, by rw [htokens]; decide, _, hreads.operand.term, by decide⟩

end TaskQuery
