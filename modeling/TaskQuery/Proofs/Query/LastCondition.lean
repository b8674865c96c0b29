/-
  TaskQuery — the last condition of a query.

  A query that does not end in a parenthesis ends in a condition, and what that
  condition is decides about the whole query.

  * `Leads now phrase n before fill`: the tokens `before` lead up to the last
    condition of a phrase, whose tree is `fill x` if that condition is `x`;
  * `Derives.leads`: a phrase is what leads up to its last condition, and that
    condition; `Leads.derives`: any other condition can stand in its place;
  * `Leads.refuses`: if the readers refuse the last condition, they refuse the phrase;
  * `DerivesCondition.ends_in_literal`: what becomes of a condition without the literal at
    its end;
  * `Grammatical.change_literal`, `refuses_without` and `changes_without`: what becomes of a
    query if the literal at its end is changed or left out.
-/
import TaskQuery.Proofs.Query.Fault
import TaskQuery.Proofs.Query.Replacement

namespace TaskQuery

/-! ## What leads up to the last condition -/

/-- The tokens `before` lead up to the last condition of a phrase outside of
    parentheses; with the condition `x` there, the tree of the phrase is `fill x`. -/
inductive Leads (now : Instant) :
    Phrase → (n : Nat) → (before : List Token) → (fill : Condition → Expression) → Prop
  | condition {n} : Leads now .operand n [] .condition
  | operand {n before fill} : Leads now .operand n before fill → Leads now .term n before fill
  | and {n tokens e} : Derives now .term n tokens e →
      Leads now .term n (tokens ++ [.bare "&&"]) fun x => .and e (.condition x)
  | term {n before fill} : Leads now .term n before fill → Leads now .expression n before fill
  | or {n tokens before e fill} : Derives now .term n tokens e → Leads now .expression n before fill →
      Leads now .expression n (tokens ++ .bare "||" :: before) fun x => .or e (fill x)

variable {now : Instant} {phrase : Phrase} {n : Nat} {before more tokens : List Token}
  {e : Expression} {fill : Condition → Expression} {x : Condition}

theorem Leads.last_fill (h : Leads now phrase n before fill) (x : Condition) : (fill x).last = x := by
  induction h with
  | condition | and => rfl
  | operand _ ih | term _ ih | or _ _ ih => exact ih

/-- The last condition stands in a gap with nothing after it. -/
theorem Leads.around (h : Leads now phrase n before fill) :
    ∃ gap fill', Around now phrase n before gap [] fill' ∧ ∀ x, fill' (.condition x) = fill x := by
  induction h with
  | condition => exact ⟨_, id, .here, fun x => rfl⟩
  | operand _ ih =>
    obtain ⟨gap, fill', h', hfill⟩ := ih
    exact ⟨gap, fill', .operand h', hfill⟩
  | and he => exact ⟨_, _, .and he, fun x => rfl⟩
  | term _ ih =>
    obtain ⟨gap, fill', h', hfill⟩ := ih
    exact ⟨gap, fill', .term h', hfill⟩
  | or he _ ih =>
    obtain ⟨gap, fill', h', hfill⟩ := ih
    exact ⟨gap, _, .or he h', fun x => congrArg _ (hfill x)⟩

/-- Any condition can stand at the end. -/
theorem Leads.derives (h : Leads now phrase n before fill) (hx : DerivesCondition now more x) :
    Derives now phrase n (before ++ more) (fill x) := by
  obtain ⟨gap, fill', h', hfill⟩ := h.around
  have hd := h'.derives (Gap.fits_condition hx)
  rwa [List.append_nil, hfill] at hd

/-- **A phrase that does not end in a parenthesis ends in a condition.** -/
theorem Derives.leads (h : Derives now phrase n tokens e)
    (hend : ∀ front, tokens ≠ front ++ [.bare ")"]) :
    ∃ before more fill x, tokens = before ++ more ∧ Leads now phrase n before fill ∧
      DerivesCondition now more x ∧ e = fill x := by
  induction h with
  | condition hx => exact ⟨[], _, _, _, rfl, .condition, hx, rfl⟩
  | group => exact absurd rfl (hend (.bare "(" :: _))
  | operand _ ih =>
    obtain ⟨before, more, fill, x, htokens, hlead, hx, he⟩ := ih hend
    exact ⟨before, more, fill, x, htokens, .operand hlead, hx, he⟩
  | and he hx => exact ⟨_, _, _, _, by rw [List.append_assoc]; rfl, .and he, hx, rfl⟩
  | term _ ih =>
    obtain ⟨before, more, fill, x, htokens, hlead, hx, he⟩ := ih hend
    exact ⟨before, more, fill, x, htokens, .term hlead, hx, he⟩
  | @or n tokens rest e e' ht _ _ ih =>
    have hrest : ∀ front, rest ≠ front ++ [.bare ")"] := by
      rintro front rfl
      exact hend (tokens ++ .bare "||" :: front) (by rw [List.append_assoc, List.cons_append])
    obtain ⟨before, more, fill, x, rfl, hlead, hx, rfl⟩ := ih hrest
    refine ⟨_, more, _, x, ?_, .or ht hlead, hx, rfl⟩
    rw [List.append_assoc, List.cons_append]

/-! ## Readers that refuse -/

namespace Parser

/-- A reader refuses to read these tokens at the end of a query. -/
def Refuses (p : Parser α) (tokens : List Token) : Prop :=
  ∀ c d : Cursor, c.Passes tokens d → d.rest = [] → ∃ r, p c = .error r

end Parser

/-- **If the last condition is refused, the phrase is.** -/
theorem Leads.refuses (h : Leads now phrase n before fill)
    (hmore : (Parser.condition now).Refuses more) (hparen : more.head? ≠ some (.bare "(")) :
    (Parser.reader now n phrase).Refuses (before ++ more) := by
  intro c d hp hd
  obtain ⟨gap, fill', h', -⟩ := h.around
  obtain ⟨c₁, h₁, h₂⟩ := hp.between
  obtain ⟨r, hr⟩ := hmore c₁ d h₂ hd
  have hat : c₁.isAt (.bare "(") = false := by
    rw [Cursor.isAt, h₂.1, hd, List.append_nil]
    exact decide_eq_false hparen
  exact ⟨r, h'.reader_eq_error h₁ (Gap.reader_eq_error hr hat)⟩

/-- What the reader of expressions refuses is no expression. -/
theorem Parser.Refuses.not_derives (h : (Parser.expression now n).Refuses tokens) :
    ¬ Derives now .expression n tokens e := by
  intro he
  obtain ⟨d, hd, -⟩ := Parser.expression_start_iff.2 he
  obtain ⟨r, hr⟩ := h _ _ Cursor.passes_start rfl
  rw [hd] at hr
  cases hr

/-! ## A literal at the end -/

namespace Parser

variable {name : Token} {f : Field} {o : Operator} {items : List Token}

/-- A condition is refused if nothing stands after its operator, or for a list no item. -/
theorem condition_refuses (hname : name.text = f.name)
    (hitems : ∀ token ∈ items, endsList token = false) (hnone : items.flatMap itemsOf = [])
    (hscalar : o.takesList = false → items = []) :
    (condition now).Refuses (name :: (o.tokens ++ items)) := by
  intro c d hp hd
  rw [← List.cons_append] at hp
  obtain ⟨c₁, h₁, h₂⟩ := hp.between
  suffices hmisfit : Misfit (name :: o.tokens) c₁ (.missingValue f o) from
    ⟨_, condition_of_misfit h₁ hmisfit⟩
  cases ho : o.takesList with
  | true =>
    have hhalts : d.Halts := by
      intro token ht
      rw [hd] at ht
      cases ht
    exact .missingItems hname ho (by rw [h₂.takeWhile hitems hhalts, hnone])
  | false =>
    refine .missingValue hname ho fun token ht => ?_
    rw [h₂.1, hscalar ho, hd] at ht
    cases ht

end Parser

/-- **A condition that ends in a literal** has it as its value or as its last item.
    Without it the condition is refused, unless there are other items. -/
theorem DerivesCondition.ends_in_literal {used : List Token} {text : String}
    (h : DerivesCondition now (used ++ [.literal text]) x) :
    (x.value = .text text ∧ (Parser.condition now).Refuses used) ∨
    ∃ items, x.value = .list (items ++ [text]) ∧
      (items = [] → (Parser.condition now).Refuses used) ∧
      (items ≠ [] → DerivesCondition now used { x with value := .list items }) := by
  generalize htokens : used ++ [.literal text] = tokens at h
  cases h with
  | @scalar name value f o hname ho hvalue =>
    rw [← List.cons_append] at htokens
    obtain ⟨rfl, rfl⟩ := List.append_singleton_inj.1 htokens
    have hrefuses : (Parser.condition now).Refuses (name :: (o.tokens ++ [])) :=
      Parser.condition_refuses hname (fun token ht => by cases ht) rfl fun _ => rfl
    rw [List.append_nil] at hrefuses
    exact Or.inl ⟨rfl, hrefuses⟩
  | @list name f o items hname ho hitems hne =>
    -- the literal is the last token of the items
    rcases List.eq_nil_or_concat items with rfl | ⟨front, last, rfl⟩
    · exact absurd rfl hne
    rw [List.concat_eq_append, ← List.append_assoc, ← List.cons_append] at htokens
    obtain ⟨rfl, rfl⟩ := List.append_singleton_inj.1 htokens
    rw [List.concat_eq_append] at hitems
    have hfront : ∀ token ∈ front, Parser.endsList token = false :=
      fun token ht => hitems token (List.mem_append_left _ ht)
    refine Or.inr ⟨front.flatMap Parser.itemsOf, ?_, fun hnone => ?_, fun hsome => ?_⟩
    · rw [List.concat_eq_append, List.flatMap_append, List.flatMap_singleton, Parser.itemsOf_literal]
    · refine Parser.condition_refuses hname hfront hnone fun hscalar => ?_
      rw [ho] at hscalar
      cases hscalar
    · exact .list hname ho hfront hsome

/-- What leads up to the last condition of an expression that ends in a literal. -/
theorem Derives.ends_in_literal {front : List Token} {text : String}
    (h : Derives now .expression n (front ++ [.literal text]) e) :
    ∃ before used fill, front = before ++ used ∧ Leads now .expression n before fill ∧
      DerivesCondition now (used ++ [.literal text]) e.last ∧ e = fill e.last := by
  have hend : ∀ front', front ++ [.literal text] ≠ front' ++ [.bare ")"] := by
    intro front' heq
    have := (List.append_singleton_inj.1 heq).2
    simp at this
  obtain ⟨before, more, fill, x, htokens, hlead, hx, rfl⟩ := h.leads hend
  rcases List.eq_nil_or_concat more with rfl | ⟨used, last, rfl⟩
  · exact absurd rfl hx.ne_nil
  rw [List.concat_eq_append, ← List.append_assoc] at htokens
  obtain ⟨rfl, rfl⟩ := List.append_singleton_inj.1 htokens
  rw [List.concat_eq_append] at hx
  rw [hlead.last_fill]
  exact ⟨before, used, fill, rfl, hlead, hx, rfl⟩

/-! ## Queries that end in a literal -/

/-- A condition compares with this text and nothing else. -/
def Condition.HasOnly (x : Condition) (text : String) : Prop :=
  x.value = .text text ∨ x.value = .list [text]

section
variable {front : List Token} {text other : String} (h : Grammatical now (front ++ [.literal text]) e)
include h

theorem Grammatical.ne_nil_of_literal : front ≠ [] := by
  rintro rfl
  obtain ⟨before, used, fill, hfront, -, hx, -⟩ := h.2.ends_in_literal
  obtain ⟨-, rfl⟩ := List.append_eq_nil_iff.1 hfront.symm
  exact absurd hx.one_lt_length (Nat.lt_irrefl 1)

/-- Another literal at the end makes another query. -/
theorem Grammatical.change_literal (hne : other ≠ text) :
    ∃ e', Grammatical now (front ++ [.literal other]) e' ∧ e' ≠ e := by
  have hfield : ¬ ReadsField now (front ++ [.literal text]) front.length := by
    intro hfield
    have := hfield.succ_lt
    simp at this
  obtain ⟨e', he', hreplaced⟩ := h.replace_literal hfield other
  exact ⟨e', he', (hreplaced.ne hne.symm).symm⟩

/-- Without the only literal of its last condition, a query is none. -/
theorem Grammatical.refuses_without (honly : e.last.HasOnly text) {e' : Expression} :
    ¬ Grammatical now front e' := by
  obtain ⟨before, used, fill, rfl, hlead, hx, -⟩ := h.2.ends_in_literal
  have hparen : used.head? ≠ some (.bare "(") := by
    intro hhead
    refine hx.head_not_structural (.bare "(") ?_ (by decide)
    rw [List.head?_append, hhead]
    rfl
  have hrefuses : (Parser.condition now).Refuses used := by
    rcases hx.ends_in_literal with ⟨-, hrefuses⟩ | ⟨items, hvalue, hnone, -⟩
    · exact hrefuses
    · refine hnone ?_
      rcases honly with honly | honly <;> rw [hvalue] at honly
      · cases honly
      · exact (List.append_singleton_inj.1 (Literal.list.inj honly)).1
  exact fun h' => (hlead.refuses hrefuses hparen).not_derives h'.2

/-- Without the last of more items, a query is another one. -/
theorem Grammatical.changes_without (honly : ¬ e.last.HasOnly text) :
    ∃ e', Grammatical now front e' ∧ e' ≠ e := by
  obtain ⟨before, used, fill, rfl, hlead, hx, he⟩ := h.2.ends_in_literal
  have hcount : (before ++ used).countP Token.joins < maxConditions := by
    have := h.1
    rw [List.countP_append] at this
    omega
  rcases hx.ends_in_literal with ⟨hvalue, -⟩ | ⟨items, hvalue, -, hsome⟩
  · exact absurd (Or.inl hvalue) honly
  · have hne : items ≠ [] := by
      rintro rfl
      exact honly (Or.inr hvalue)
    refine ⟨_, ⟨hcount, hlead.derives (hsome hne)⟩, fun heq => ?_⟩
    have hlast := congrArg (fun e => e.last.value) heq
    simp only [hlead.last_fill, hvalue, Literal.list.injEq] at hlast
    have hlength := congrArg List.length hlast
    rw [List.length_append, List.length_singleton] at hlength
    omega

end

end TaskQuery
