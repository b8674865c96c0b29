/-
  TaskQuery — which expressions come from queries.

  The type of conditions allows a list after every operator and a single value after
  `in`.  Such a condition never holds, and no query has one.

  * `Literal.WellFormed` and `Condition.WellFormed`: lists stand after `in` and `not in`,
    and nowhere else; nothing is empty, and numbers are finite;
  * `isLike?`, `Condition.holds?` and `Expression.holds?` decide a record as `holds`
    does, but are undefined where a list stands in the wrong place;
    `Condition.holds?_eq_some_iff`: and nowhere else;
  * `DerivesValue.wellFormed`: the value that tokens of a query are;
  * `accepted_wellFormed`: every expression that comes from a query is well formed.
-/
import TaskQuery.Proofs.Query.Report
import TaskQuery.Proofs.Query.ValueTokens
import TaskQuery.Query.Evaluation

namespace TaskQuery

/-! ## Well-formed conditions -/

/-- A literal that can come from a query. -/
def Literal.WellFormed : Literal → Prop
  | text value => value ≠ ""
  | list items => items ≠ [] ∧ ∀ item ∈ items, item ≠ ""
  | number value => value.isFinite
  | bool _ => True

/-- A condition that can come from a query. -/
structure Condition.WellFormed (x : Condition) : Prop where
  list_iff : (∃ items, x.value = .list items) ↔ x.operator = .isIn ∨ x.operator = .notIn
  value : x.value.WellFormed

/-! ## Checked evaluation -/

/-- Whether the text of a literal is contained in a value, if the literal has one. -/
def isLike? (actual : FieldValue) : Literal → Option Bool
  | .list _ => none
  | literal => some (isLike actual literal)

/-- Whether a condition holds of a record, if lists stand where they belong. -/
def Condition.holds? (x : Condition) (record : Record) : Option Bool :=
  match x.operator, x.value with
  | .isIn, .list _ | .notIn, .list _ => some (x.holds record)
  | .isIn, _ | .notIn, _ | _, .list _ => none
  | .like, value => isLike? (record x.field) value
  | _, _ => some (x.holds record)

/-- Whether an expression holds of a record, if lists stand where they belong in all
    conditions that are looked at. -/
def Expression.holds? (record : Record) : Expression → Option Bool
  | condition x => x.holds? record
  | joined .and left right => do
    if ← left.holds? record then right.holds? record else return false
  | joined .or left right => do
    if ← left.holds? record then return true else right.holds? record

theorem Operator.takesList_iff {o : Operator} : o.takesList ↔ o = .isIn ∨ o = .notIn := by
  cases o <;> decide

/-- The checked evaluation of a condition is undefined exactly if there is a list in the
    wrong place or none in the right one; else it is the evaluation. -/
theorem Condition.holds?_eq_some_iff {x : Condition} {record : Record} {b : Bool} :
    x.holds? record = some b ↔
      ((∃ items, x.value = .list items) ↔ x.operator.takesList) ∧ x.holds record = b := by
  obtain ⟨f, o, v⟩ := x
  cases o <;> cases v <;> simp [holds?, isLike?, holds, Operator.takesList]

theorem Expression.Forall.holds?_eq {e : Expression} (h : e.Forall Condition.WellFormed)
    (record : Record) : e.holds? record = some (e.holds record) := by
  induction e with
  | condition x =>
    exact Condition.holds?_eq_some_iff.2 ⟨h.list_iff.trans Operator.takesList_iff.symm, rfl⟩
  | joined connective left right ihl ihr =>
    have hleft : left.holds? record = some (left.holds record) := ihl h.1
    have hright : right.holds? record = some (right.holds record) := ihr h.2
    cases connective with
    | and => cases hl : left.holds record <;> simp [holds?, holds, hleft, hright, hl]
    | or => cases hl : left.holds record <;> simp [holds?, holds, hleft, hright, hl]

/-! ## Values of queries -/

theorem Instant.toText_ne_empty (i : Instant) : i.toText ≠ "" := by
  intro h
  have hlength := congrArg String.length h
  simp [toText] at hlength

theorem Parser.wellFormed_literalOf {now : Instant} {token : Token} (h : token.text ≠ "") :
    (literalOf now token).WellFormed := by
  unfold literalOf
  split
  · exact h
  split
  · trivial
  split
  · trivial
  split
  · exact now.toText_ne_empty
  split
  · split
    · rename_i hfinite
      exact hfinite
    · exact h
  · exact h

theorem Parser.literalOf_ne_list {now : Instant} {token : Token} {items : List String} :
    literalOf now token ≠ .list items := by
  unfold literalOf
  repeat' split
  all_goals nofun

theorem Parser.ne_empty_of_mem_itemsOf {token : Token} (h : token.text ≠ "") :
    ∀ item ∈ itemsOf token, item ≠ "" := by
  intro item hitem
  unfold itemsOf at hitem
  split at hitem
  · rw [List.mem_singleton.1 hitem]
    exact h
  · obtain ⟨piece, hpiece, rfl⟩ := List.mem_map.1 hitem
    rw [Ne, String.ofList_eq_empty_iff]
    exact of_decide_eq_true (List.mem_filter.1 hpiece).2

/-- No comma and no blank is left in an item of an unquoted token. -/
theorem Token.Lexical.plain_itemsOf {token : Token} (h : token.Lexical)
    (hbare : token.quoted = false) :
    ∀ item ∈ Parser.itemsOf token, ∀ c ∈ item.toList, c ≠ ',' ∧ Text.isBlank c = false := by
  intro item hitem c hc
  have hpieces : ∀ piece ∈ Parser.splitCommas token.text.toList, ∀ c ∈ piece,
      c ≠ ',' ∧ Text.isBlank c = false := by
    refine Parser.forall_splitCommas.2 fun c hc => ?_
    by_cases hcomma : c = ','
    · exact Or.inl hcomma
    · exact Or.inr ⟨hcomma, h.not_blank hbare c hc⟩
  rw [Parser.itemsOf, if_neg (by simp [hbare])] at hitem
  obtain ⟨trimmed, htrimmed, rfl⟩ := List.mem_map.1 hitem
  obtain ⟨piece, hpiece, rfl⟩ := List.mem_map.1 (List.mem_filter.1 htrimmed).1
  rw [String.toList_ofList] at hc
  obtain ⟨leading, trailing, -, -, htext⟩ := Text.exists_eq_trim piece
  refine hpieces piece hpiece c ?_
  rw [htext]
  exact List.mem_append_right _ (List.mem_append_left _ hc)

section
variable {now : Instant} {o : Operator} {tokens : List Token} {v : Literal}

theorem DerivesValue.list_iff (h : DerivesValue now o tokens v) :
    (∃ items, v = .list items) ↔ o.takesList := by
  cases h with
  | single ho =>
    rw [ho]
    refine iff_of_false ?_ Bool.false_ne_true
    rintro ⟨items, hitems⟩
    exact Parser.literalOf_ne_list hitems
  | list ho => exact iff_of_true ⟨_, rfl⟩ ho

theorem DerivesValue.items_eq {items : List String} (h : DerivesValue now o tokens v)
    (hv : v = .list items) : items = tokens.flatMap Parser.itemsOf := by
  cases h with
  | single => exact absurd hv Parser.literalOf_ne_list
  | list => exact (Literal.list.inj hv).symm

/-- **The value that tokens of a query are is well formed.** -/
theorem DerivesValue.wellFormed (h : DerivesValue now o tokens v)
    (hlexical : ∀ token ∈ tokens, token.Lexical) : v.WellFormed := by
  cases h with
  | single => exact Parser.wellFormed_literalOf (hlexical _ (List.mem_singleton_self _)).ne_empty
  | list _ _ hne =>
    refine ⟨hne, fun item hitem => ?_⟩
    obtain ⟨token, ht, hitem⟩ := List.mem_flatMap.1 hitem
    exact Parser.ne_empty_of_mem_itemsOf (hlexical token ht).ne_empty item hitem

end

theorem Derives.groupsLead {now : Instant} {phrase : Phrase} {n : Nat} {tokens : List Token}
    {e : Expression} (h : Derives now phrase n tokens e) : e.GroupsLead := by
  induction h with
  | condition => trivial
  | group _ ih | operand _ ih | term _ ih => exact ih
  | and _ _ ih => exact ⟨ih, trivial, fun _ => ⟨_, rfl⟩⟩
  | or _ _ ih ih' => exact ⟨ih, ih', nofun⟩

/-! ## Expressions of queries -/

/-- **Every expression that comes from a query is well formed.**  In each condition the
    value is a list exactly after `in` and `not in`, no text, list or item is empty, and
    numbers are finite; after every `&&` stands a condition.  Each value is read from
    tokens of the query: the items of a list are those of its tokens, one by one, and
    without quotes they have neither commas nor blanks.  So no record is ever compared
    with a list that stands in the wrong place. -/
theorem accepted_wellFormed {query : String} {now : Instant} {e : Expression}
    (h : parseQuery query now = .ok (some e)) :
    e.Forall Condition.WellFormed ∧ e.GroupsLead ∧
    (e.Forall fun x => ∃ values,
      ReadsValue now .expression maxNesting (tokenize query) e x values) ∧
    (∀ x values, ReadsValue now .expression maxNesting (tokenize query) e x values →
      (∀ items, x.value = .list items → items = values.flatMap Parser.itemsOf) ∧
      ∀ token ∈ values, token.quoted = false →
        ∀ item ∈ Parser.itemsOf token, ∀ c ∈ item.toList, c ≠ ',' ∧ Text.isBlank c = false) ∧
    ∀ record, e.holds? record = some (e.holds record) := by
  obtain ⟨-, hderives⟩ := parseQuery_eq_some_iff.1 h
  have hlexical {x : Condition} {values : List Token}
      (hreads : ReadsValue now .expression maxNesting (tokenize query) e x values) :
      ∀ token ∈ values, token.Lexical :=
    fun token ht => lexical_of_mem_tokenize (hreads.subset ht)
  have hwell : e.Forall Condition.WellFormed := by
    refine hderives.forall_readsValue.imp ?_
    rintro x ⟨values, hreads⟩
    have hvalue := hreads.derivesValue
    exact ⟨hvalue.list_iff.trans Operator.takesList_iff, hvalue.wellFormed (hlexical hreads)⟩
  refine ⟨hwell, hderives.groupsLead, hderives.forall_readsValue, fun x values hreads => ⟨?_, ?_⟩,
    hwell.holds?_eq⟩
  · exact fun items hitems => hreads.derivesValue.items_eq hitems
  · exact fun token ht hbare => (hlexical hreads token ht).plain_itemsOf hbare

/-- A list with quotes and without, a group, and a text. -/
theorem accepted_wellFormed_grouped : ∃ e,
    parseQuery "(labels not in \"a, b\" c,d || done = true) && project like x" ⟨0, 0⟩ =
      .ok (some e) ∧
    e.Forall Condition.WellFormed ∧ e.GroupsLead ∧
    ∀ record, e.holds? record = some (e.holds record) := by
  have haccepted :
      parseQuery "(labels not in \"a, b\" c,d || done = true) && project like x" ⟨0, 0⟩ =
        .ok (some (.and (.or (.condition ⟨.labels, .notIn, .list ["a, b", "c", "d"]⟩)
          (.condition ⟨.done, .eq, .bool true⟩)) (.condition ⟨.project, .like, .text "x"⟩))) := by
    rfl
  obtain ⟨hwell, hgroups, -, -, hholds⟩ := accepted_wellFormed haccepted
  exact ⟨_, haccepted, hwell, hgroups, hholds⟩

end TaskQuery
