/-
  TaskQuery — the default query of the settings.

  * `assignNamed_default`: the default query is set exactly if it is not rejected, and then
    kept without the blanks around it;
  * `stored_default_is_validated_iff`: what is kept is the query that was checked, unless
    that ends in a blank inside an open quote.
-/
import TaskQuery.Proofs.Query.Trimming
import TaskQuery.Proofs.Query.TwoInstants
import TaskQuery.Settings.Assignment

namespace TaskQuery

variable {s s' : Settings} {value query : String} {now : Instant}

/-! ## Assignment -/

/-- The default query is kept without the blanks around it, if anything is left. -/
theorem nonBlank?_eq : Settings.nonBlank? value =
    if (trimmed value).toList = [] then none else some (trimmed value) := by
  rw [toList_trimmed]
  rfl

theorem assignNamed_default (s : Settings) (value : String) (now : Instant) :
    s.assignNamed "filter.default" value now = match parseQuery value now with
      | .ok _ => .ok { s with defaultFilter := Settings.nonBlank? value }
      | .error r => .error (.invalidFilter value r) := by
  have hkey : Settings.Key.ofName? "filter.default" = some .defaultFilter := by decide
  rw [Settings.assignNamed, hkey]
  rfl

theorem assignNamed_default_eq_ok_iff :
    s.assignNamed "filter.default" value now = .ok s' ↔
      (∃ e?, parseQuery value now = .ok e?) ∧
        s' = { s with defaultFilter := Settings.nonBlank? value } := by
  rw [assignNamed_default]
  cases parseQuery value now with
  | error r => simp
  | ok e? => simp [eq_comm]

/-- A query without tokens ends in no open literal. -/
theorem closed_of_tokenize_eq_nil (h : tokenize value = []) :
    QuotesClosed value ∨ ¬ EndsInBlank value := by
  by_cases hquote : QuotesClosed value
  · exact Or.inl hquote
  · refine Or.inr fun hblank => ?_
    obtain ⟨front, text, trailing, -, -, -, htokens, -⟩ := tokenize_of_open hquote hblank
    rw [h] at htokens
    simp at htokens

theorem tokenize_eq_nil_of_trimmed (h : (trimmed value).toList = []) : tokenize value = [] := by
  obtain ⟨trailing, htrailing, -, htokens, -, -⟩ := exists_trailing value
  rw [htokens, h, List.nil_append, tokensOf_blanks htrailing]

/-! ## What is kept -/

/-- **The default query that is kept is the one that was checked**, at every instant, exactly if
    its quotes are closed or it does not end in a blank.  An empty default stands
    for a query that keeps everything.  The kept query is rejected exactly if
    nothing but blanks in an open quote was the value of its last condition. -/
theorem stored_default_is_validated_iff {checked : Instant}
    (h : s.assignNamed "filter.default" value checked = .ok s') :
    match s'.defaultFilter with
    | none => ∀ now, parseQuery value now = .ok none
    | some kept => ∀ now,
      (parseQuery kept now = parseQuery value now ↔ QuotesClosed value ∨ ¬ EndsInBlank value) ∧
      ((∃ r, parseQuery kept now = .error r) ↔
        ∃ e, parseQuery value now = .ok (some e) ∧ EndsInBlankValue value e) := by
  obtain ⟨⟨e?, he?⟩, rfl⟩ := assignNamed_default_eq_ok_iff.1 h
  show match Settings.nonBlank? value with | none => _ | some kept => _
  by_cases hnil : (trimmed value).toList = []
  · rw [nonBlank?_eq, if_pos hnil]
    exact fun now => parseQuery_eq_none_iff.2 (tokenize_eq_nil_of_trimmed hnil)
  · rw [nonBlank?_eq, if_neg hnil]
    intro now
    cases e? with
    | none =>
      have hnone : parseQuery value now = .ok none :=
        parseQuery_eq_none_iff.2 (parseQuery_eq_none_iff.1 he?)
      have hkept : QuotesClosed value ∨ ¬ EndsInBlank value :=
        closed_of_tokenize_eq_nil (parseQuery_eq_none_iff.1 he?)
      rw [parseQuery_congr (tokenize_trimmed hkept), hnone]
      refine ⟨iff_of_true rfl hkept, iff_of_false ?_ ?_⟩
      · rintro ⟨r, hr⟩
        cases hr
      · rintro ⟨e, he, -⟩
        cases he
    | some e =>
      obtain ⟨e', he', -⟩ := (parseQuery_eq_some_iff.1 he?).twins now
      have he' := parseQuery_eq_some_iff.2 he'
      obtain ⟨hsame, hrejected⟩ := parseQuery_trimmed he'
      refine ⟨hsame, hrejected.trans ⟨fun hvalue => ⟨e', he', hvalue⟩, ?_⟩⟩
      rintro ⟨e'', he'', hvalue⟩
      rw [he'] at he''
      cases he''
      exact hvalue

/-- A default with blanks inside and outside of closed quotes. -/
theorem stored_default_is_validated_quoted :
    ∃ s', ({} : Settings).assignNamed "filter.default" " project = ' a ' \n" ⟨0, 0⟩ = .ok s' ∧
      s'.defaultFilter = some "project = ' a '" ∧
      parseQuery "project = ' a '" ⟨1, 0⟩ = parseQuery " project = ' a ' \n" ⟨1, 0⟩ := by
  have h : ({} : Settings).assignNamed "filter.default" " project = ' a ' \n" ⟨0, 0⟩ =
      .ok { defaultFilter := some "project = ' a '" } := by rfl
  exact ⟨_, h, rfl, ((stored_default_is_validated_iff h ⟨1, 0⟩).1).2 (Or.inl (by rfl))⟩

/-- A blank in an open quote is accepted as a value, but is not kept, and what is kept is
    rejected. -/
theorem stored_default_loses_open_blank :
    ∃ s', ({} : Settings).assignNamed "filter.default" "project = \" " ⟨0, 0⟩ = .ok s' ∧
      s'.defaultFilter = some "project = \"" ∧
      parseQuery "project = \" " ⟨0, 0⟩ = .ok (some (.condition ⟨.project, .eq, .text " "⟩)) ∧
      parseQuery "project = \"" ⟨0, 0⟩ = .error ⟨.missingValue .project .eq, 2⟩ := by
  refine ⟨{ defaultFilter := some "project = \"" }, ?_, ?_, ?_, ?_⟩ <;> rfl

end TaskQuery
