/-
  TaskQuery — the first token that cannot be right.

  A rejection stands at the first token with which no query goes on: the tokens
  before it begin a query, and with it they do not.

  * `Fault.completes`: what stands before a fault begins a query;
  * `Fault.remains`: the fault is there whatever follows the token at fault, unless the
    token is one of those that `Rejection.Cause.Spares` names; so with it no query goes
    on (`Fault.not_accepted`);
  * `rejected_at_first_wrong_token`: both for every token stream, and for queries.
-/
import TaskQuery.Proofs.Query.Report

namespace TaskQuery

/-- A token at which a query can be rejected although it could go on with it: the
    first token of `not in`, or a token of a list that is no item. -/
def Rejection.Cause.Spares (token : Token) : Rejection.Cause → Prop
  | .unknownOperator _ => token = .bare "not"
  | .missingValue _ o => o.takesList ∧ Parser.itemsOf token = []
  | _ => False

/-! ## What stands before a fault begins a query -/

/-- Tokens with which a query can be completed. -/
def Token.fillers : List Token := [.bare "done", .bare "=", .bare "true", .bare ")"]

theorem Token.lexical_of_mem_fillers {token : Token} (h : token ∈ fillers) : token.Lexical := by
  have hfillers : tokenize "done = true )" = fillers := by decide
  exact lexical_of_mem_tokenize (hfillers ▸ h)

variable {now : Instant} {gap : Gap} {used tokens : List Token} {c d d' : Cursor} {e : Expression}
  {cause : Rejection.Cause} {token : Token} {phrase : Phrase}

/-- What begins a condition can be completed to one. -/
theorem Misfit.completes (h : Misfit used d cause) (now : Instant) :
    ∃ more x, DerivesCondition now (used ++ more) x ∧ more ⊆ Token.fillers := by
  have hitem : [Token.bare "true"].flatMap Parser.itemsOf ≠ [] := by decide
  cases h with
  | unexpectedEnd | unknownField =>
    exact ⟨[.bare "done", .bare "=", .bare "true"], _,
      .scalar (f := .done) (o := .eq) rfl rfl (by decide), by decide⟩
  | missingOperator hname | unknownOperator hname =>
    exact ⟨[.bare "=", .bare "true"], _, .scalar (o := .eq) hname rfl (by decide), by decide⟩
  | missingValue hname ho => exact ⟨[.bare "true"], _, .scalar hname ho (by decide), by decide⟩
  | missingItems hname ho => exact ⟨[.bare "true"], _, .list hname ho (by decide) hitem, by decide⟩

/-- What begins in a gap can be completed to what fits. -/
theorem Gap.Blocked.completes (h : gap.Blocked now used d cause) :
    ∃ more e, gap.Fits now (used ++ more) e ∧ more ⊆ Token.fillers := by
  cases h with
  | condition hmisfit | operand hmisfit =>
    obtain ⟨more, x, hx, hmore⟩ := hmisfit.completes now
    exact ⟨more, _, Gap.fits_condition hx, hmore⟩
  | tooDeep =>
    exact ⟨[.bare "done", .bare "=", .bare "true"], _,
      Gap.fits_condition (.scalar (f := .done) (o := .eq) rfl rfl (by decide)), by decide⟩
  | unclosed he => exact ⟨[.bare ")"], _, .group he, by decide⟩

/-- **What stands before a fault begins a query.** -/
theorem Fault.completes (h : Fault now used d cause) :
    ∃ more e, Derives now .expression maxNesting (used ++ more) e ∧ more ⊆ Token.fillers := by
  cases h with
  | blocked haround hblocked =>
    obtain ⟨more, e, hfits, hmore⟩ := hblocked.completes
    obtain ⟨closing, fill, haround, hclosing⟩ := haround.closing
    refine ⟨more ++ closing, fill e, ?_, List.append_subset.2 ⟨hmore, fun token ht => ?_⟩⟩
    · have hd := haround.derives hfits
      simpa only [List.append_assoc] using hd
    · rw [hclosing token ht]
      decide
  | leftOver he => exact ⟨[], _, by rwa [List.append_nil], List.nil_subset _⟩

/-! ## A fault remains whatever follows -/

section
variable (hd : d.rest.head? = some token) (hd' : d'.rest.head? = some token)
include hd hd'

theorem Cursor.isAt_congr (other : Token) : d'.isAt other = d.isAt other := by
  rw [isAt, isAt, hd, hd']

theorem Cursor.Bounds.congr (h : d.Bounds tokens e) : d'.Bounds tokens e := by
  unfold Bounds Halts at h ⊢
  rwa [hd', ← hd]

theorem Cursor.Stops.congr (h : d.Stops phrase) : d'.Stops phrase := by
  cases phrase with
  | operand => trivial
  | term => exact (isAt_congr hd hd' _).trans h
  | expression => exact ⟨(isAt_congr hd hd' _).trans h.1, (isAt_congr hd hd' _).trans h.2⟩

theorem Misfit.remains (h : Misfit used d cause) (hspares : ¬ cause.Spares token) :
    Misfit used d' cause := by
  obtain ⟨rest, hrest⟩ := List.head?_eq_some_iff.1 hd
  obtain ⟨rest', hrest'⟩ := List.head?_eq_some_iff.1 hd'
  cases h with
  | unexpectedEnd hr | missingOperator _ hr =>
    rw [hrest] at hr
    cases hr
  | unknownField hr hname =>
    rw [hrest] at hr
    cases hr
    exact .unknownField hrest' hname
  | unknownOperator hname hr hnone =>
    rw [hrest] at hr
    cases hr
    refine .unknownOperator hname hrest' fun o ho => ?_
    rw [hrest'] at ho
    by_cases hnot : o = .notIn
    · subst hnot
      exact hspares (List.cons_prefix_cons.1 ho).1.symm
    · refine hnone o ?_
      rw [Operator.tokens_of_ne hnot, List.cons_prefix_cons] at ho
      rw [Operator.tokens_of_ne hnot, hrest, List.cons_prefix_cons]
      exact ⟨ho.1, List.nil_prefix⟩
  | missingValue hname ho hnone =>
    rw [hd] at hnone
    exact .missingValue hname ho (by rwa [hd'])
  | missingItems hname ho hnone =>
    refine .missingItems hname ho ?_
    by_cases hends : Parser.endsList token
    · rw [hrest', List.takeWhile_cons_of_neg (by simpa using hends)]
      rfl
    · -- the token would be one of the items
      rw [hrest, List.takeWhile_cons_of_pos (by simpa using hends), List.flatMap_cons,
        List.append_eq_nil_iff] at hnone
      exact absurd ⟨ho, hnone.1⟩ hspares

theorem Gap.Blocked.remains (h : gap.Blocked now used d cause) (hspares : ¬ cause.Spares token) :
    gap.Blocked now used d' cause := by
  cases h with
  | condition hmisfit => exact .condition (hmisfit.remains hd hd' hspares)
  | operand hmisfit hat =>
    refine .operand (hmisfit.remains hd hd' hspares) fun hused => ?_
    exact (Cursor.isAt_congr hd hd' _).trans (hat hused)
  | tooDeep hat => exact .tooDeep ((Cursor.isAt_congr hd hd' _).trans hat)
  | unclosed he hbounds hstops hat =>
    exact .unclosed he (hbounds.congr hd hd') (hstops.congr hd hd')
      ((Cursor.isAt_congr hd hd' _).trans hat)

/-- **A fault remains whatever follows the token at fault.** -/
theorem Fault.remains (h : Fault now used d cause) (hspares : ¬ cause.Spares token) :
    Fault now used d' cause := by
  cases h with
  | blocked haround hblocked => exact .blocked haround (hblocked.remains hd hd' hspares)
  | leftOver he hbounds hstops hr =>
    obtain ⟨rest', hrest'⟩ := List.head?_eq_some_iff.1 hd'
    have htoken := hd
    rw [hr, List.head?_cons, Option.some.injEq] at htoken
    subst htoken
    exact .leftOver he (hbounds.congr hd hd') (hstops.congr hd hd') hrest'

end

/-! ## Token streams and queries -/

theorem Token.joins_of_mem_fillers {token : Token} (h : token ∈ fillers) : token.joins = false := by
  have hall : ∀ token ∈ fillers, token.joins = false := by decide
  exact hall token h

/-- The tokens before a fault, completed, are within the limit on conditions. -/
theorem Fault.grammatical (h : Fault now used d cause) {rest : List Token}
    (hcount : (used ++ rest).countP Token.joins < maxConditions) :
    ∃ more e, Grammatical now (used ++ more) e ∧ more ⊆ Token.fillers := by
  obtain ⟨more, e, he, hmore⟩ := h.completes
  refine ⟨more, e, ⟨?_, he⟩, hmore⟩
  have hnone : more.countP Token.joins = 0 := by
    rw [List.countP_eq_zero]
    intro token ht
    rw [Token.joins_of_mem_fillers (hmore ht)]
    exact Bool.false_ne_true
  rw [List.countP_append] at hcount ⊢
  omega

/-- The tokens before a fault in a query begin a query. -/
theorem Fault.completes_query {query : String} (h : Fault now used d cause)
    (htokens : tokenize query = used ++ d.rest)
    (hcount : (used ++ d.rest).countP Token.joins < maxConditions) :
    ∃ completed e, used <+: tokenize completed ∧ parseQuery completed now = .ok (some e) := by
  obtain ⟨more, e, he, hmore⟩ := h.grammatical hcount
  have hlexical : ∀ token ∈ used ++ more, token.Lexical := by
    intro token ht
    rcases List.mem_append.1 ht with ht | ht
    · exact lexical_of_mem_tokenize (htokens ▸ List.mem_append_left d.rest ht)
    · exact Token.lexical_of_mem_fillers (hmore ht)
  have hcompleted : tokenize (writtenTokens (used ++ more)) = used ++ more :=
    tokenize_writtenTokens hlexical
  refine ⟨writtenTokens (used ++ more), e, ?_, parseQuery_eq_some_iff.2 (by rwa [hcompleted])⟩
  rw [hcompleted]
  exact List.prefix_append used more

/-- **With the token at a fault no query goes on.** -/
theorem Fault.not_accepted (h : Fault now used d cause) (ht : d.rest.head? = some token)
    (hspares : ¬ cause.Spares token) (more : List Token) (e : Expression) :
    parseTokens now (used ++ token :: more) ≠ .ok e := by
  intro hok
  have hremains : Fault now used ⟨used.length, token :: more⟩ cause := h.remains ht rfl hspares
  rw [hremains.parseTokens_eq_error (parseTokens_eq_ok_iff.1 hok).1] at hok
  cases hok

/-- A rejection of another kind than too many conditions stands at a fault. -/
theorem fault_of_rejection {tokens : List Token} {r : Rejection}
    (h : parseTokens now tokens = .error r) (hcause : r.cause ≠ .tooManyConditions) :
    ∃ used d, tokens = used ++ d.rest ∧ used.length = r.position ∧ Fault now used d r.cause ∧
      tokens.countP Token.joins < maxConditions := by
  rcases parseTokens_eq_error_iff.1 h with ⟨hlimit, -⟩ | ⟨hcount, used, d, hp, hfault, hposition⟩
  · exact absurd hlimit hcause
  · obtain ⟨htokens, hindex⟩ := Cursor.passes_start_iff.1 hp
    exact ⟨used, d, htokens, by rw [hposition, hindex], hfault, hcount⟩

/-- **Rejections stand at the first token that cannot be right.**  The tokens before the
    position of a rejection begin a token stream that is accepted; with the next
    token they do not, unless that may be spared.  The tokens before the position in a
    query begin a query that is accepted; and in a query the tokens that are no item
    are unquoted commas. -/
theorem rejected_at_first_wrong_token (now : Instant) :
    (∀ {tokens : List Token} {r : Rejection}, parseTokens now tokens = .error r →
      r.cause ≠ .tooManyConditions →
      (∃ more e, parseTokens now (tokens.take r.position ++ more) = .ok e) ∧
      ∀ token, tokens[r.position]? = some token → ¬ r.cause.Spares token →
        ∀ more e, parseTokens now (tokens.take (r.position + 1) ++ more) ≠ .ok e) ∧
    (∀ {query : String} {r : Rejection}, parseQuery query now = .error r →
      r.cause ≠ .tooManyConditions →
      ∃ completed e, (tokenize query).take r.position <+: tokenize completed ∧
        parseQuery completed now = .ok (some e)) ∧
    ∀ {query : String} {token : Token}, token ∈ tokenize query →
      (Parser.itemsOf token = [] ↔ token.quoted = false ∧ ∀ c ∈ token.text.toList, c = ',') := by
  refine ⟨fun {tokens r} h hcause => ?_, fun {query r} h hcause => ?_, fun {query token} ht => ?_⟩
  · obtain ⟨used, d, rfl, hused, hfault, hcount⟩ := fault_of_rejection h hcause
    rw [← hused, List.take_left]
    constructor
    · obtain ⟨more, e, he, -⟩ := hfault.grammatical hcount
      exact ⟨more, e, parseTokens_eq_ok_iff.2 he⟩
    · intro token ht hspares more e
      rw [List.getElem?_append_right (Nat.le_refl _), Nat.sub_self, ← List.head?_eq_getElem?] at ht
      have htake : (used ++ d.rest).take (used.length + 1) = used ++ [token] := by
        obtain ⟨rest, hrest⟩ := List.head?_eq_some_iff.1 ht
        rw [List.take_length_add_append, hrest]
        rfl
      rw [htake, List.append_assoc, List.singleton_append]
      exact hfault.not_accepted ht hspares more e
  · obtain ⟨used, d, htokens, hused, hfault, hcount⟩ :=
      fault_of_rejection (parseQuery_rejects_iff.1 h).2 hcause
    rw [htokens] at hcount ⊢
    rw [← hused, List.take_left]
    exact hfault.completes_query htokens hcount
  · rw [Parser.itemsOf_eq_nil_iff]
    refine and_congr_right fun hbare => forall₂_congr fun c hc => ?_
    simp [(lexical_of_mem_tokenize ht).not_blank hbare c hc]

/-- A condition that ends after its field, in parentheses. -/
theorem rejected_at_closing_parenthesis :
    parseQuery "(labels in a, b && done)" ⟨0, 0⟩ = .error ⟨.unknownOperator ")", 7⟩ ∧
      (∃ completed e, [.bare "(", .bare "labels", .bare "in", .bare "a,", .bare "b", .bare "&&",
          .bare "done"] <+: tokenize completed ∧ parseQuery completed ⟨0, 0⟩ = .ok (some e)) ∧
      ∀ more e, parseTokens ⟨0, 0⟩ ([.bare "(", .bare "labels", .bare "in", .bare "a,", .bare "b",
        .bare "&&", .bare "done", .bare ")"] ++ more) ≠ .ok e := by
  have herror : parseQuery "(labels in a, b && done)" ⟨0, 0⟩ =
      .error ⟨.unknownOperator ")", 7⟩ := by rfl
  have htokens : tokenize "(labels in a, b && done)" = [.bare "(", .bare "labels", .bare "in",
      .bare "a,", .bare "b", .bare "&&", .bare "done", .bare ")"] := by decide +kernel
  have hcause : Rejection.Cause.unknownOperator ")" ≠ .tooManyConditions := by simp
  have hnot : ¬ (Rejection.Cause.unknownOperator ")").Spares (.bare ")") := by
    simp [Rejection.Cause.Spares]
  have hcompleted := (rejected_at_first_wrong_token ⟨0, 0⟩).2.1 herror hcause
  have hstream := (parseQuery_rejects_iff.1 herror).2
  have hwrong := ((rejected_at_first_wrong_token ⟨0, 0⟩).1 hstream hcause).2
  rw [htokens] at hcompleted hwrong
  exact ⟨herror, hcompleted, hwrong (.bare ")") rfl hnot⟩

end TaskQuery
