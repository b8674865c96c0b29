/-
  TaskQuery — queries without the blanks around them.

  * `trimmed query`: the query without the blanks at either end;
  * `tokenize_trimmed`: its tokens are the same, if quotes are closed or the query
    does not end in a blank;
  * `tokenize_of_open`: otherwise the query ends in an open literal, which loses the
    blanks at its end, or is lost if there is nothing else in it;
  * `parseQuery_trimmed_of_open`: then the rest is another query, or none at all;
  * `parseQuery_trimmed`: exactly when a query without the blanks around it is still the
    same query, and exactly when it is rejected.
-/
import TaskQuery.Proofs.Query.LastCondition
import TaskQuery.Proofs.Query.Scanning

namespace TaskQuery

/-- A query without the blanks at either end. -/
def trimmed (query : String) : String :=
  String.ofList (Text.trim query.toList)

/-- A query ends in a blank. -/
def EndsInBlank (query : String) : Prop :=
  ∃ c ∈ query.toList.getLast?, Text.isBlank c

/-- A query with the tree `e` ends in an open literal of blanks alone, and its last
    condition has no other value. -/
def EndsInBlankValue (query : String) (e : Expression) : Prop :=
  ¬ QuotesClosed query ∧ openText query.toList ≠ [] ∧
    (∀ c ∈ openText query.toList, Text.isBlank c) ∧
    e.last.HasOnly (String.ofList (openText query.toList))

variable {query : String} {now : Instant} {e : Expression}

/-! ## Tokens -/

theorem toList_trimmed : (trimmed query).toList = Text.trim query.toList :=
  String.toList_ofList

/-- What remains of a query, and the blanks at its end. -/
theorem exists_trailing (query : String) :
    ∃ trailing, (∀ c ∈ trailing, Text.isBlank c) ∧
      openQuote query.toList = openQuote (trimmed query).toList ∧
      tokenize query = tokensOf ((trimmed query).toList ++ trailing) ∧
      openText query.toList = openText ((trimmed query).toList ++ trailing) ∧
      ((trimmed query).toList ≠ [] → (EndsInBlank query ↔ trailing ≠ [])) := by
  obtain ⟨leading, trailing, hleading, htrailing, htext⟩ := Text.exists_eq_trim query.toList
  have hlast := Text.isBlank_getLast_trim query.toList
  rw [← toList_trimmed] at htext hlast
  refine ⟨trailing, htrailing, ?_, ?_, ?_, fun hne => ?_⟩
  · rw [htext, openQuote_append (openQuote_blanks hleading), openQuote_append_blanks htrailing]
  · rw [tokenize_eq, htext, tokensOf_blanks_append hleading]
  · rw [htext, openText_blanks_append hleading]
  · rw [EndsInBlank, htext]
    rcases List.eq_nil_or_concat trailing with rfl | ⟨front, last, rfl⟩
    · have hend : (leading ++ (trimmed query).toList).getLast? = (trimmed query).toList.getLast? := by
        rw [List.getLast?_append, List.getLast?_eq_some_getLast hne]
        rfl
      rw [List.append_nil, hend]
      refine iff_of_false ?_ fun h => h rfl
      rintro ⟨c, hc, hblank⟩
      rw [hlast c hc] at hblank
      cases hblank
    · refine iff_of_true ⟨last, by simp, htrailing last (by simp)⟩ (by simp)

/-- **With closed quotes, or without a blank at the end, the tokens are the same.** -/
theorem tokenize_trimmed (h : QuotesClosed query ∨ ¬ EndsInBlank query) :
    tokenize (trimmed query) = tokenize query := by
  obtain ⟨trailing, htrailing, hquote, htokens, -, hends⟩ := exists_trailing query
  rw [htokens, tokenize_eq]
  rcases h with h | h
  · rw [tokensOf_append_blanks htrailing (hquote ▸ h)]
  · by_cases hne : (trimmed query).toList = []
    · rw [hne, List.nil_append, tokensOf_blanks htrailing]
      rfl
    · have hnil : trailing = [] := Classical.not_not.1 fun hnot => h ((hends hne).2 hnot)
      rw [hnil, List.append_nil]

/-- Otherwise the open literal at the end loses blanks, or is lost. -/
theorem tokenize_of_open (hquote : ¬ QuotesClosed query) (hblank : EndsInBlank query) :
    ∃ front text trailing, trailing ≠ [] ∧ openText query.toList = text ++ trailing ∧
      ((∀ c ∈ openText query.toList, Text.isBlank c) ↔ text = []) ∧
      tokenize query = front ++ [.literal (String.ofList (text ++ trailing))] ∧
      tokenize (trimmed query) =
        front ++ if text = [] then [] else [.literal (String.ofList text)] := by
  obtain ⟨trailing, htrailing, hsame, htokens, htext, hends⟩ := exists_trailing query
  rw [QuotesClosed, hsame] at hquote
  cases hopen : openQuote (trimmed query).toList with
  | none => exact absurd hopen hquote
  | some quote =>
    have hcore : (trimmed query).toList ≠ [] := by
      intro hnil
      rw [hnil] at hopen
      cases hopen
    have hne : trailing ≠ [] := (hends hcore).1 hblank
    have hb : ∀ c ∈ trailing, c ≠ quote := fun c hc => ne_of_openQuote hopen (htrailing c hc)
    rw [openText_append_of_open hopen hb] at htext
    refine ⟨tokensBefore (trimmed query).toList, openText (trimmed query).toList, trailing, hne, htext,
      ⟨fun h => ?_, fun h => ?_⟩, ?_, ?_⟩
    · refine openText_eq_nil ?_ fun c hc => h c (htext ▸ List.mem_append_left _ hc)
      rw [toList_trimmed]
      exact Text.isBlank_getLast_trim _
    · rw [htext, h, List.nil_append]
      exact htrailing
    · rw [htokens, tokensOf_append_of_open hopen hb, if_neg]
      exact fun h => hne (List.append_eq_nil_iff.1 h).2
    · have := tokensOf_append_of_open (b := []) hopen (fun c hc => by cases hc)
      rwa [List.append_nil, List.append_nil] at this

/-! ## Trees -/

theorem parseQuery_congr {other : String} (h : tokenize other = tokenize query) :
    parseQuery other now = parseQuery query now := by
  rw [parseQuery, parseQuery, h]

theorem not_endsInBlankValue (h : QuotesClosed query ∨ ¬ EndsInBlank query) :
    ¬ EndsInBlankValue query e := by
  rintro ⟨hopen, hsome, hall, -⟩
  rcases h with hclosed | hblank
  · exact hopen hclosed
  · refine hsome (openText_eq_nil (fun c hc => ?_) hall)
    exact Bool.eq_false_iff.2 fun hc' => hblank ⟨c, hc, hc'⟩

/-- With a blank at the end of an open quote, what remains is another query, or none. -/
theorem parseQuery_trimmed_of_open (h : parseQuery query now = .ok (some e))
    (hopen : ¬ QuotesClosed query) (hblank : EndsInBlank query) :
    (EndsInBlankValue query e ∧ ∃ r, parseQuery (trimmed query) now = .error r) ∨
    (¬ EndsInBlankValue query e ∧ ∃ e', parseQuery (trimmed query) now = .ok (some e') ∧ e' ≠ e) := by
  obtain ⟨front, text, trailing, hne, htext, hall, htokens, htrimmed⟩ := tokenize_of_open hopen hblank
  have hg := parseQuery_eq_some_iff.1 h
  rw [htokens, ← htext] at hg
  by_cases hnil : text = []
  · -- nothing is left of the literal
    rw [if_pos hnil, List.append_nil] at htrimmed
    by_cases honly : e.last.HasOnly (String.ofList (openText query.toList))
    · have hsome : openText query.toList ≠ [] := by
        rw [htext, hnil]
        exact hne
      refine Or.inl ⟨⟨hopen, hsome, hall.2 hnil, honly⟩, parseQuery_eq_error_iff.2 ⟨?_, fun e' => ?_⟩⟩
      · rw [htrimmed]
        exact hg.ne_nil_of_literal
      · rw [htrimmed]
        exact hg.refuses_without honly
    · obtain ⟨e', he', hdiff⟩ := hg.changes_without honly
      rw [← htrimmed] at he'
      exact Or.inr ⟨fun hvalue => honly hvalue.2.2.2, e', parseQuery_eq_some_iff.2 he', hdiff⟩
  · -- the literal is shorter
    rw [if_neg hnil] at htrimmed
    have hshorter : String.ofList text ≠ String.ofList (openText query.toList) := by
      intro heq
      have hlength := congrArg List.length (String.ofList_inj.1 heq)
      rw [htext, List.length_append] at hlength
      exact hne (List.eq_nil_of_length_eq_zero (by omega))
    obtain ⟨e', he', hdiff⟩ := hg.change_literal hshorter
    rw [← htrimmed] at he'
    exact Or.inr ⟨fun hvalue => hnil (hall.1 hvalue.2.2.1), e', parseQuery_eq_some_iff.2 he', hdiff⟩

/-- **Blanks around a query do not count, outside quotes.**  Without them a query has the
    same tree exactly if its quotes are closed or it does not end in a blank; and
    it is rejected exactly if it ends in an open literal of blanks that is the only
    value of its last condition. -/
theorem parseQuery_trimmed (h : parseQuery query now = .ok (some e)) :
    (parseQuery (trimmed query) now = parseQuery query now ↔
      QuotesClosed query ∨ ¬ EndsInBlank query) ∧
    ((∃ r, parseQuery (trimmed query) now = .error r) ↔ EndsInBlankValue query e) := by
  by_cases hkept : QuotesClosed query ∨ ¬ EndsInBlank query
  · have hsame : parseQuery (trimmed query) now = .ok (some e) := by
      rw [parseQuery_congr (tokenize_trimmed hkept), h]
    rw [hsame, h]
    refine ⟨iff_of_true rfl hkept, iff_of_false ?_ (not_endsInBlankValue hkept)⟩
    rintro ⟨r, hr⟩
    cases hr
  · have hopen : ¬ QuotesClosed query := fun hc => hkept (Or.inl hc)
    have hblank : EndsInBlank query := Classical.not_not.1 fun hb => hkept (Or.inr hb)
    rcases parseQuery_trimmed_of_open h hopen hblank with ⟨hvalue, r, hr⟩ | ⟨hvalue, e', he', hdiff⟩
    · rw [hr, h]
      refine ⟨iff_of_false (fun heq => ?_) hkept, iff_of_true ⟨r, rfl⟩ hvalue⟩
      cases heq
    · rw [he', h]
      refine ⟨iff_of_false (fun heq => hdiff ?_) hkept, iff_of_false ?_ hvalue⟩
      · exact Option.some.inj (Except.ok.inj heq)
      · rintro ⟨r, hr⟩
        cases hr

end TaskQuery
