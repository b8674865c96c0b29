/-
  TaskQuery — what stands in quotes.

  Whatever stands in quotes is one token, and never structures a query.  So a query
  stays what it is when other text is put in its quotes: only one value, or one item
  of a list, becomes another.

  * `quotedQuery u quote s v`: the query with the text `s` in quotes between `u` and `v`;
    `tokenize_quotedQuery`: its tokens;
  * `quoted_field_is_looked_up`: another text in the quotes of a field;
  * `quoted_text_changes_one_value`: another text in any other quotes.
-/
import TaskQuery.Proofs.Query.Fault
import TaskQuery.Proofs.Query.Replacement
import TaskQuery.Proofs.Query.Scanning

namespace TaskQuery

variable {now : Instant} {e : Expression} {s s' : String}

/-! ## Queries -/

/-- The query with the text `s` in quotes between `u` and `v`. -/
def quotedQuery (u : String) (quote : Char) (s v : String) : String :=
  String.ofList (u.toList ++ quote :: (s.toList ++ quote :: v.toList))

/-- A text ends where a token may begin: it is empty, or ends in a blank or a
    parenthesis. -/
def Divided (u : String) : Prop :=
  ∀ c ∈ u.toList.getLast?, Text.isBlank c ∨ c = '(' ∨ c = ')'

/-- A text can stand between two quotes of a kind. -/
def StandsIn (quote : Char) (s : String) : Prop :=
  s ≠ "" ∧ ∀ c ∈ s.toList, c ≠ quote

/-- **The text in quotes is one token.** -/
theorem tokenize_quotedQuery {u v : String} {quote : Char} (hu : QuotesClosed u) (hdivided : Divided u)
    (hquote : quote = '"' ∨ quote = '\'') (hs : StandsIn quote s) :
    tokenize (quotedQuery u quote s v) = tokenize u ++ .literal s :: tokenize v := by
  have hne : s.toList ≠ [] := fun hnil => hs.1 (String.toList_inj.1 hnil)
  rw [tokenize_eq, quotedQuery, String.toList_ofList, tokensOf_append hu hdivided,
    (tokensOf_literal hquote hne hs.2 _).2, String.ofList_toList]
  rfl

/-- A field in quotes is looked up: another text there that is no field's name is
    rejected for that. -/
theorem quoted_field_is_looked_up {u v : String} {quote : Char} (hu : QuotesClosed u)
    (hdivided : Divided u) (hquote : quote = '"' ∨ quote = '\'') (hs : StandsIn quote s)
    (hs' : StandsIn quote s') (h : parseQuery (quotedQuery u quote s v) now = .ok (some e))
    (hfield : ReadsField now (tokenize (quotedQuery u quote s v)) (tokenize u).length)
    (hname : ∀ f : Field, s' ≠ f.name) :
    parseQuery (quotedQuery u quote s' v) now =
      .error ⟨.unknownField s' (suggestField s'), (tokenize u).length⟩ := by
  obtain ⟨hcount, -⟩ := parseQuery_eq_some_iff.1 h
  rw [tokenize_quotedQuery hu hdivided hquote hs] at hcount hfield
  obtain ⟨before, gap, after, fill, used, x, haround, -, htokens, hlength⟩ := hfield
  obtain ⟨hbefore, -⟩ := List.append_inj htokens hlength.symm
  have hmisfit : Misfit [] ⟨before.length, .literal s' :: tokenize v⟩
      (.unknownField (Token.literal s').text (suggestField (Token.literal s').text)) :=
    .unknownField rfl hname
  have hblocked : gap.Blocked now [] ⟨before.length, .literal s' :: tokenize v⟩
      (.unknownField s' (suggestField s')) := by
    cases gap with
    | operand n => exact .operand hmisfit fun _ => by simp [Cursor.isAt]
    | condition => exact .condition hmisfit
  rw [hbefore] at hcount ⊢
  rw [parseQuery_rejects_iff, tokenize_quotedQuery hu hdivided hquote hs', hbefore]
  exact ⟨by simp, (haround.fault hblocked).parseTokens_eq_error (by simpa using hcount)⟩

/-- **Nothing in quotes can change the structure of a query.**  Where quotes may begin,
    other text in them changes the text of one token and nothing else.  If the query is
    accepted and no field is read there, so is the other query, and its tree differs in
    one value or one item of a list. -/
theorem quoted_text_changes_one_value {u v : String} {quote : Char} (hu : QuotesClosed u)
    (hdivided : Divided u) (hquote : quote = '"' ∨ quote = '\'') {s s' : String}
    (hs : StandsIn quote s) (hs' : StandsIn quote s') :
    tokenize (quotedQuery u quote s v) = tokenize u ++ .literal s :: tokenize v ∧
      tokenize (quotedQuery u quote s' v) = tokenize u ++ .literal s' :: tokenize v ∧
      ∀ now e, parseQuery (quotedQuery u quote s v) now = .ok (some e) →
        ¬ ReadsField now (tokenize (quotedQuery u quote s v)) (tokenize u).length →
        ∃ e', parseQuery (quotedQuery u quote s' v) now = .ok (some e') ∧ e.Replaced s s' e' := by
  have htokens : tokenize (quotedQuery u quote s v) = tokenize u ++ .literal s :: tokenize v :=
    tokenize_quotedQuery hu hdivided hquote hs
  have htokens' : tokenize (quotedQuery u quote s' v) = tokenize u ++ .literal s' :: tokenize v :=
    tokenize_quotedQuery hu hdivided hquote hs'
  refine ⟨htokens, htokens', fun now e h hfield => ?_⟩
  rw [parseQuery_eq_some_iff, htokens] at h
  rw [htokens] at hfield
  obtain ⟨e', he', hreplaced⟩ := h.replace_literal hfield s'
  rw [← htokens'] at he'
  exact ⟨e', parseQuery_eq_some_iff.2 he', hreplaced⟩

/-- A text that looks like the end of a group and another condition. -/
theorem quoted_text_changes_no_group :
    ∃ e', parseQuery "(labels in a, \") || done = 'true'\" && priority = high)" ⟨0, 0⟩ =
        .ok (some e') ∧
      Expression.Replaced "x" ") || done = 'true'"
        (.and (.condition ⟨.labels, .isIn, .list ["a", "x"]⟩)
          (.condition ⟨.priority, .eq, .text "high"⟩)) e' := by
  have hclosed : QuotesClosed "(labels in a, " := by rfl
  have hdivided : Divided "(labels in a, " := by
    intro c hc
    cases hc
    decide
  have hx : StandsIn '"' "x" := by simp [StandsIn]
  have hs' : StandsIn '"' ") || done = 'true'" := by simp [StandsIn]
  obtain ⟨htokens, -, hother⟩ := quoted_text_changes_one_value (v := " && priority = high)")
    hclosed hdivided (Or.inl rfl) hx hs'
  have hread : parseQuery (quotedQuery "(labels in a, " '"' "x" " && priority = high)") ⟨0, 0⟩ =
      .ok (some (.and (.condition ⟨.labels, .isIn, .list ["a", "x"]⟩)
        (.condition ⟨.priority, .eq, .text "high"⟩))) := by rfl
  refine hother ⟨0, 0⟩ _ hread fun hfield => ?_
  -- the token is no field's name
  obtain ⟨token, f, htoken, hname⟩ := hfield.name
  rw [htokens, List.getElem?_append_right (Nat.le_refl _), Nat.sub_self] at htoken
  cases htoken
  cases f <;> simp [Field.name] at hname

end TaskQuery
