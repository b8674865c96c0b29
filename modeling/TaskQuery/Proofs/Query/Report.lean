/-
  TaskQuery — what a rejection says about the tokens.

  * `Parser.itemsOf_eq_nil_iff`: an unquoted token of commas and blanks is no item of
    a list, and every other token is;
  * `Rejection.Cause.Describes cause used rest`: what a cause says about the tokens
    before the position of a rejection and from there on;
  * `rejection_describes_tokens`: every rejection of a query is right in what it says.
-/
import TaskQuery.Proofs.Query.Fault
import TaskQuery.Proofs.Query.Lexeme

namespace TaskQuery

/-! ## Tokens without items -/

namespace Parser

theorem splitCommas_ne_nil (text : List Char) : splitCommas text ≠ [] := by
  cases text with
  | nil => exact List.cons_ne_nil _ _
  | cons c rest =>
    unfold splitCommas
    split
    · split <;> exact List.cons_ne_nil _ _
    · exact List.cons_ne_nil _ _

/-- The pieces between the commas are all that is not a comma. -/
theorem forall_splitCommas {P : Char → Prop} {text : List Char} :
    (∀ piece ∈ splitCommas text, ∀ c ∈ piece, P c) ↔ ∀ c ∈ text, c = ',' ∨ P c := by
  induction text with
  | nil => simp [splitCommas]
  | cons c rest ih =>
    rw [List.forall_mem_cons, ← ih]
    obtain ⟨piece, pieces, hs⟩ := List.exists_cons_of_ne_nil (splitCommas_ne_nil rest)
    by_cases hc : c = ','
    · simp [splitCommas, hs, hc]
    · simp [splitCommas, hs, hc, and_assoc]

/-- An unquoted token of commas and blanks is no item of a list. -/
theorem itemsOf_eq_nil_iff {token : Token} : itemsOf token = [] ↔
    token.quoted = false ∧ ∀ c ∈ token.text.toList, c = ',' ∨ Text.isBlank c := by
  cases hq : token.quoted with
  | true => simp [itemsOf, hq]
  | false =>
    rw [← forall_splitCommas]
    simp only [itemsOf, hq, Bool.false_eq_true, if_false, List.map_eq_nil_iff,
      List.filter_eq_nil_iff, List.mem_map, ← Text.trim_eq_nil_iff]
    simp

end Parser

/-! ## What causes say -/

/-- What a cause says about the tokens `used` before the position of a rejection and
    the tokens `rest` from there on. -/
def Rejection.Cause.Describes (used rest : List Token) : Rejection.Cause → Prop
  | .unknownField word suggestion => ∃ token more, rest = token :: more ∧ word = token.text ∧
      (∀ f : Field, word ≠ f.name) ∧ suggestion = suggestField word
  | .unknownOperator word => ∃ token more, rest = token :: more ∧ word = token.text ∧
      (token.quoted ∨ ∀ o : Operator, word ≠ o.symbol) ∧
      (token = .bare "not" → more.head? ≠ some (.bare "in"))
  | .missingOperator f => rest = [] ∧ ∃ front name, used = front ++ [name] ∧ name.text = f.name
  | .unexpectedEnd => rest = []
  | .missingValue f o => (∃ front name, used = front ++ name :: o.tokens ∧ name.text = f.name) ∧
      if o.takesList then
        ∀ token ∈ rest.takeWhile fun token => !Parser.endsList token,
          token.quoted = false ∧ ∀ c ∈ token.text.toList, c = ','
      else ∀ token ∈ rest.head?, token ∈ Token.structural
  | .unclosedParenthesis => ∀ token ∈ rest.head?, ¬ Parser.endsList token
  | .tooDeep => rest.head? = some (.bare "(")
  | .tooManyConditions => ∃ token ∈ rest.head?, token.joins
  | .unexpectedToken word => used ≠ [] ∧
      ∃ token more, rest = token :: more ∧ word = token.text ∧ ¬ token.joins

section
variable {now : Instant} {gap : Gap} {used tokens : List Token} {d : Cursor} {r : Rejection}
  {cause : Rejection.Cause}

theorem Misfit.describes (h : Misfit used d cause) (hlexical : ∀ token ∈ d.rest, token.Lexical)
    (before : List Token) : cause.Describes (before ++ used) d.rest := by
  cases h with
  | unexpectedEnd hr => exact hr
  | unknownField hr hname => exact ⟨_, _, hr, rfl, hname, rfl⟩
  | missingOperator hname hr => exact ⟨hr, before, _, rfl, hname⟩
  | @unknownOperator _ _ f token rest hname hr hnone =>
    refine ⟨token, rest, hr, rfl, ?_, ?_⟩
    · refine Classical.or_iff_not_imp_left.2 fun hquoted o ho => ?_
      have hbare : token = .bare o.symbol :=
        (Token.eq_bare (Bool.eq_false_iff.2 hquoted)).trans (congrArg Token.bare ho)
      by_cases hnot : o = .notIn
      · -- `not in` has a blank, so it is no token
        subst hnot
        have hblank := (hlexical token (hr ▸ List.mem_cons_self)).not_blank
        rw [hbare] at hblank
        exact absurd (hblank rfl ' ' (by decide)) (by decide)
      · refine hnone o ⟨rest, ?_⟩
        rw [Operator.tokens_of_ne hnot, hr, hbare]
        rfl
    · rintro rfl hhead
      obtain ⟨more, rfl⟩ := List.head?_eq_some_iff.1 hhead
      exact hnone .notIn ⟨more, hr.symm⟩
  | @missingValue _ name f o hname ho hnone =>
    refine ⟨⟨before, name, rfl, hname⟩, ?_⟩
    rw [ho]
    exact hnone
  | @missingItems _ name f o hname ho hnone =>
    refine ⟨⟨before, name, rfl, hname⟩, ?_⟩
    rw [ho]
    intro token ht
    have hmem : token ∈ d.rest := (List.takeWhile_subset _) ht
    obtain ⟨hbare, hcommas⟩ :=
      Parser.itemsOf_eq_nil_iff.1 (List.flatMap_eq_nil_iff.1 hnone token ht)
    refine ⟨hbare, fun c hc => (hcommas c hc).resolve_right ?_⟩
    rw [(hlexical token hmem).not_blank hbare c hc]
    exact Bool.false_ne_true

theorem Fault.describes (h : Fault now used d cause) (hlexical : ∀ token ∈ d.rest, token.Lexical) :
    cause.Describes used d.rest := by
  cases h with
  | @blocked before gap after fill used d cause haround hblocked =>
    cases hblocked with
    | condition hmisfit | operand hmisfit => exact hmisfit.describes hlexical before
    | tooDeep hat => exact Cursor.isAt_eq_true_iff.1 hat
    | unclosed he hbounds hstops hat =>
      intro token ht hends
      simp only [Parser.endsList, Bool.or_eq_true, decide_eq_true_eq] at hends
      rcases hends with (rfl | rfl) | rfl
      · exact Cursor.isAt_eq_false_iff.1 hstops.1 ht
      · exact Cursor.isAt_eq_false_iff.1 hstops.2 ht
      · exact Cursor.isAt_eq_false_iff.1 hat ht
  | @leftOver tokens d e token rest he hbounds hstops hr =>
    refine ⟨he.ne_nil, token, rest, hr, rfl, fun hjoins => ?_⟩
    simp only [Token.joins, Bool.or_eq_true, decide_eq_true_eq] at hjoins
    rcases hjoins with rfl | rfl
    · exact Cursor.isAt_eq_false_iff.1 hstops.1 (by rw [hr]; rfl)
    · exact Cursor.isAt_eq_false_iff.1 hstops.2 (by rw [hr]; rfl)

/-- The indexes of connectives are where connectives stand. -/
theorem head?_drop_of_mem_connectiveIndexes {index position : Nat}
    (h : position ∈ connectiveIndexes index tokens) :
    index ≤ position ∧ ∃ token ∈ (tokens.drop (position - index)).head?, token.joins := by
  induction tokens generalizing index with
  | nil => cases h
  | cons token rest ih =>
    have hrest (h : position ∈ connectiveIndexes (index + 1) rest) : index ≤ position ∧
        ∃ found ∈ ((token :: rest).drop (position - index)).head?, found.joins := by
      obtain ⟨hle, hfound⟩ := ih h
      have hstep : position - index = position - (index + 1) + 1 := by omega
      rw [hstep]
      exact ⟨by omega, hfound⟩
    rw [connectiveIndexes] at h
    split at h
    · rename_i hjoins
      rcases List.mem_cons.1 h with rfl | h
      · rw [Nat.sub_self]
        exact ⟨Nat.le_refl _, token, rfl, by simpa [Token.joins] using hjoins⟩
      · exact hrest h
    · exact hrest h

end

/-! ## Rejections of queries -/

/-- **Every rejection of a query is right in what it says** about the tokens before its
    position and from there on. -/
theorem rejection_describes_tokens {query : String} {now : Instant} {r : Rejection}
    (h : parseQuery query now = .error r) :
    r.position ≤ (tokenize query).length ∧
      r.cause.Describes ((tokenize query).take r.position) ((tokenize query).drop r.position) := by
  rcases parseTokens_eq_error_iff.1 (parseQuery_rejects_iff.1 h).2 with
    ⟨hcause, hposition⟩ | ⟨-, used, d, hp, hfault, hposition⟩
  · have hmem := List.mem_of_getElem? hposition
    obtain ⟨-, token, ht, hjoins⟩ := head?_drop_of_mem_connectiveIndexes hmem
    rw [Nat.sub_zero] at ht
    rw [hcause]
    refine ⟨?_, token, ht, hjoins⟩
    have hne : (tokenize query).drop r.position ≠ [] := by
      intro hnil
      rw [hnil] at ht
      cases ht
    exact Nat.le_of_not_le fun hle => hne (List.drop_eq_nil_of_le hle)
  · obtain ⟨htokens, hindex⟩ := Cursor.passes_start_iff.1 hp
    have hlexical : ∀ token ∈ d.rest, token.Lexical := fun token ht =>
      lexical_of_mem_tokenize (htokens ▸ List.mem_append_right used ht)
    rw [hposition, hindex, htokens, List.take_left, List.drop_left]
    exact ⟨by simp, hfault.describes hlexical⟩

/-- A list of commas alone, after `not in` and before a closing parenthesis. -/
theorem rejection_describes_commas :
    parseQuery "(labels not in , ,,) && done = true" ⟨0, 0⟩ =
        .error ⟨.missingValue .labels .notIn, 4⟩ ∧
      Rejection.Cause.Describes
        [.bare "(", .bare "labels", .bare "not", .bare "in"]
        [.bare ",", .bare ",,", .bare ")", .bare "&&", .bare "done", .bare "=", .bare "true"]
        (.missingValue .labels .notIn) := by
  have herror : parseQuery "(labels not in , ,,) && done = true" ⟨0, 0⟩ =
      .error ⟨.missingValue .labels .notIn, 4⟩ := by rfl
  have htokens : tokenize "(labels not in , ,,) && done = true" =
      [.bare "(", .bare "labels", .bare "not", .bare "in", .bare ",", .bare ",,", .bare ")",
        .bare "&&", .bare "done", .bare "=", .bare "true"] := by decide +kernel
  have hdescribes := (rejection_describes_tokens herror).2
  rw [htokens] at hdescribes
  exact ⟨herror, hdescribes⟩

end TaskQuery
