/-
  TaskQuery — queries that are put together.

  * `Derives.or_append`: the terms of an expression can go on with another
    expression, which keeps what either keeps;
  * `applyFilter_of_grammatical`: a grammatical query is accepted, and keeps what its
    tree keeps;
  * `queries_compose`: `||`, parentheses and `&&` around query texts are union, identity
    and intersection of what the queries keep.
-/
import TaskQuery.Proofs.Query.Acceptance
import TaskQuery.Proofs.Query.Scanning
import TaskQuery.Task.Listing

namespace TaskQuery

variable {now : Instant}

/-! ## Trees -/

/-- An expression that goes on after `||`: the tree of the second expression hangs
    from the last term of the first. -/
theorem Derives.or_append {n : Nat} {tokens more : List Token} {b : Expression}
    (hb : Derives now .expression n more b) :
    ∀ {a : Expression}, Derives now .expression n tokens a →
      ∃ e, Derives now .expression n (tokens ++ .bare "||" :: more) e ∧
        e.conditions = a.conditions + b.conditions ∧
        ∀ record, e.holds record = (a.holds record || b.holds record) := by
  intro a ha
  generalize hphrase : Phrase.expression = phrase at ha
  induction ha with
  | term ht => exact ⟨_, .or ht hb, rfl, fun _ => rfl⟩
  | @or n tokens rest t a ht _ _ ih =>
    obtain ⟨e, he, hcount, hholds⟩ := ih hb rfl
    refine ⟨.or t e, ?_, ?_, fun record => ?_⟩
    · rw [List.append_assoc]
      exact .or ht he
    · simp only [Expression.conditions, hcount, Nat.add_assoc]
    · simp only [Expression.holds, hholds, Bool.or_assoc]
  | _ => cases hphrase

/-! ## What queries keep -/

/-- A grammatical query is accepted, and keeps what its tree keeps. -/
theorem applyFilter_of_grammatical {query : String} {e : Expression}
    (h : Grammatical now (tokenize query) e) (view : α → Record) (records : List α) :
    applyFilter view query records now = ⟨records.filter fun r => e.holds (view r), none⟩ := by
  rw [applyFilter, parseQuery_eq_some_iff.2 h]
  rfl

/-- The limit on connectives, in terms of the tree. -/
theorem Derives.grammatical {tokens : List Token} {e : Expression}
    (h : Derives now .expression maxNesting tokens e) (hlimit : e.conditions ≤ maxConditions) :
    Grammatical now tokens e := by
  refine ⟨?_, h⟩
  rw [h.countP_joins]
  rw [Expression.conditions_eq] at hlimit
  exact hlimit

theorem Grammatical.conditions_le {tokens : List Token} {e : Expression}
    (h : Grammatical now tokens e) : e.conditions ≤ maxConditions := by
  have hcount := h.1
  rw [h.2.countP_joins] at hcount
  rw [Expression.conditions_eq]
  exact hcount

section
variable {A B : String}

theorem tokenize_or (hA : QuotesClosed A) :
    tokenize (A ++ " || " ++ B) = tokenize A ++ .bare "||" :: tokenize B := by
  rw [tokenize_eq, String.toList_append, String.toList_append]
  exact tokensOf_joined hA (Or.inr rfl)

theorem tokenize_and (hA : QuotesClosed A) :
    tokenize (A ++ " && " ++ B) = tokenize A ++ .bare "&&" :: tokenize B := by
  rw [tokenize_eq, String.toList_append, String.toList_append]
  exact tokensOf_joined hA (Or.inl rfl)

theorem tokenize_group (hA : QuotesClosed A) :
    tokenize ("(" ++ A ++ ")") = .bare "(" :: (tokenize A ++ [.bare ")"]) := by
  rw [tokenize_eq, String.toList_append, String.toList_append, List.append_assoc]
  exact tokensOf_group hA

theorem quotesClosed_group (hA : QuotesClosed A) : QuotesClosed ("(" ++ A ++ ")") := by
  rw [QuotesClosed, String.toList_append, String.toList_append, List.append_assoc,
    openQuote_append rfl, openQuote_append hA]
  rfl

end

/-- **Query texts compose as sets.**  Let `A` and `B` be accepted queries with closed
    quotes and `C` a single condition.  As long as there are at most 512 conditions,
    `A || B` keeps what `A` or `B` keeps, in order; `(A)` has the tree of `A` if there
    is room for one more pair of parentheses, and then `(A) && C` keeps what both `A`
    and `C` keep; so does `A && C`, if no `||` joins the terms of `A`. -/
theorem queries_compose {A B C : String} {a b : Expression} {c : Condition}
    (hA : parseQuery A now = .ok (some a)) (hB : parseQuery B now = .ok (some b))
    (hC : DerivesCondition now (tokenize C) c) (closed : QuotesClosed A)
    (view : α → Record) (records : List α) :
    (a.conditions + b.conditions ≤ 512 →
      applyFilter view (A ++ " || " ++ B) records now =
        ⟨records.filter fun r => keeps (some a) (view r) || keeps (some b) (view r), none⟩) ∧
    (Derives now .expression 63 (tokenize A) a →
      parseQuery ("(" ++ A ++ ")") now = .ok (some a) ∧
      (a.conditions + 1 ≤ 512 →
        applyFilter view ("(" ++ A ++ ")" ++ " && " ++ C) records now =
          ⟨records.filter fun r =>
            keeps (some a) (view r) && keeps (some (.condition c)) (view r), none⟩)) ∧
    (Derives now .term 64 (tokenize A) a → a.conditions + 1 ≤ 512 →
      applyFilter view (A ++ " && " ++ C) records now =
        ⟨records.filter fun r =>
          keeps (some a) (view r) && keeps (some (.condition c)) (view r), none⟩) := by
  have ha := parseQuery_eq_some_iff.1 hA
  have hb := parseQuery_eq_some_iff.1 hB
  -- a term and the condition `C` after `&&`
  have hand {query : String} (hq : QuotesClosed query)
      (ht : Derives now .term maxNesting (tokenize query) a) (hlimit : a.conditions + 1 ≤ 512) :
      applyFilter view (query ++ " && " ++ C) records now =
        ⟨records.filter fun r =>
          keeps (some a) (view r) && keeps (some (.condition c)) (view r), none⟩ := by
    refine applyFilter_of_grammatical (e := .and a (.condition c)) ?_ view records
    rw [tokenize_and hq]
    exact (Derives.term (.and ht hC)).grammatical hlimit
  refine ⟨fun hlimit => ?_, fun hnest => ?_, fun ht hlimit => hand closed ht hlimit⟩
  · obtain ⟨e, he, hcount, hholds⟩ := hb.2.or_append ha.2
    have hor : Grammatical now (tokenize (A ++ " || " ++ B)) e := by
      rw [tokenize_or closed]
      exact he.grammatical (hcount ▸ hlimit)
    rw [applyFilter_of_grammatical hor]
    simp only [keeps, hholds]
  · have hgroup : Derives now .operand maxNesting (tokenize ("(" ++ A ++ ")")) a := by
      rw [tokenize_group closed]
      exact .group hnest
    refine ⟨parseQuery_eq_some_iff.2 ?_, fun hlimit => ?_⟩
    · exact (Derives.term (.operand hgroup)).grammatical ha.conditions_le
    · exact hand (quotesClosed_group closed) (.operand hgroup) hlimit

/-- A union, a group and an intersection, of three tasks. -/
theorem queries_compose_on_tasks :
    let records : List Task :=
      [{ id := "1", done := true }, { id := "2", project := some "x" },
        { id := "3", labels := ["a b"] }]
    let kept (query : String) := ((applyFilter Task.record query records ⟨0, 0⟩).kept.map Task.id,
      (applyFilter Task.record query records ⟨0, 0⟩).rejection)
    kept ("done = true || labels in 'a b'" ++ " || " ++ "project = x") =
        (["1", "2", "3"], none) ∧
      kept ("(" ++ "done = true || labels in 'a b'" ++ ")" ++ " && " ++ "done = false") =
        (["3"], none) := by
  intro records kept
  have hA : parseQuery "done = true || labels in 'a b'" ⟨0, 0⟩ = .ok (some (.or
      (.condition ⟨.done, .eq, .bool true⟩) (.condition ⟨.labels, .isIn, .list ["a b"]⟩))) := by rfl
  have hB : parseQuery "project = x" ⟨0, 0⟩ =
      .ok (some (.condition ⟨.project, .eq, .text "x"⟩)) := by rfl
  have hC : DerivesCondition ⟨0, 0⟩ (tokenize "done = false") ⟨.done, .eq, .bool false⟩ := by
    rw [show tokenize "done = false" = [.bare "done", .bare "=", .bare "false"] by decide +kernel]
    exact .scalar (o := .eq) rfl rfl (by decide)
  have hnest : Derives ⟨0, 0⟩ .expression 63 (tokenize "done = true || labels in 'a b'") (.or
      (.condition ⟨.done, .eq, .bool true⟩) (.condition ⟨.labels, .isIn, .list ["a b"]⟩)) :=
    Parser.expression_start_iff.1 ⟨⟨7, []⟩, by rfl, rfl⟩
  obtain ⟨hor, hgroup, -⟩ := queries_compose hA hB hC (by rfl) Task.record records
  constructor
  · simp only [kept, hor (by decide)]
    decide +kernel
  · simp only [kept, (hgroup hnest).2 (by decide)]
    decide +kernel

end TaskQuery
