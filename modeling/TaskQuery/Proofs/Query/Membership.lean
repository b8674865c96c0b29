/-
  TaskQuery — membership in lists.

  `in` goes by the texts of values and `=` by the values, if they are of one kind.  Among
  texts, and among the levels of the priority, the two are the same; the text of a collection
  is that of all its items together.

  * `isOneOf_eq`: to be in a list is to be loosely equal to one of its items;
  * `FieldValue.looseEq_text` and `Priority.looseEq_rank`: where loose equality is equality;
    `FieldValue.looseEq_list`: a collection loosely equals its only item;
  * `Task.textFields` and `Task.collectionFields` are the fields with a text, and those with
    a collection;
  * `membership_is_any_equality`: what `in` and `not in` have to do with `=`, and with each
    other.
-/
import TaskQuery.Proofs.Query.CurrentInstant
import TaskQuery.Proofs.Query.Like

namespace TaskQuery

/-! ## Loose equality -/

theorem FieldValue.looseEq_text (a b : String) :
    (text a).looseEq (text b) = (text a).strictEq (text b) := by
  simp [looseEq, strictEq, toText]

/-- A level is loosely equal to no level but itself. -/
theorem Priority.looseEq_rank (p q : Priority) :
    (FieldValue.number (Number.ofInt p.rank)).looseEq (.number (Number.ofInt q.rank)) =
      (FieldValue.number (Number.ofInt p.rank)).strictEq (.number (Number.ofInt q.rank)) := by
  cases p <;> cases q <;> decide +kernel

/-- A join is a word without separators only if the word is the only part. -/
theorem intercalate_eq_word_iff {separator : Char} {parts : List (List Char)} {word : List Char}
    (hne : word ≠ []) (hword : separator ∉ word) :
    [separator].intercalate parts = word ↔ parts = [word] := by
  constructor
  · intro h
    rw [← List.append_nil word, ← List.nil_append (word ++ [])] at h
    obtain ⟨first, part, last, u, v, rfl, rfl, hbefore, hafter⟩ :=
      exists_part_of_intercalate hne hword h
    obtain ⟨hfirst, rfl⟩ := List.append_eq_nil_iff.1 hbefore.symm
    obtain ⟨rfl, hlast⟩ := List.append_eq_nil_iff.1 hafter.symm
    have hfirst : first = [] := List.eq_nil_iff_forall_not_mem.2 fun part hpart => by
      simpa using List.flatMap_eq_nil_iff.1 hfirst part hpart
    have hlast : last = [] := List.eq_nil_iff_forall_not_mem.2 fun part hpart => by
      simpa using List.flatMap_eq_nil_iff.1 hlast part hpart
    simp [hfirst, hlast]
  · rintro rfl
    simp

/-- A collection loosely equals a text without commas exactly if that is its only item. -/
theorem FieldValue.looseEq_list {items : List String} {item : String} (hne : item ≠ "")
    (hcomma : ',' ∉ item.toList) : (list items).looseEq (text item) ↔ items = [item] := by
  have hitem : item.toList ≠ [] := fun h => hne (String.toList_eq_nil_iff.1 h)
  have hjoin : ",".intercalate items = item ↔ items = [item] := by
    rw [← String.toList_inj, String.toList_intercalate]
    refine (intercalate_eq_word_iff hitem hcomma).trans ?_
    rw [List.map_eq_singleton_iff]
    simp [String.toList_inj]
  simpa [looseEq, strictEq, toText] using hjoin

/-! ## Lists -/

section
variable {f : Field} {actual : FieldValue} {items more : List String}

/-- To be in a list is to be loosely equal to one of its items; an unset field is so to
    nothing. -/
theorem isOneOf_eq : isOneOf f actual items =
    items.any fun item => actual.looseEq (itemValue f item) := by
  cases actual with
  | null =>
    simp [isOneOf, FieldValue.isNull, FieldValue.looseEq, FieldValue.strictEq, FieldValue.toText]
  | bool | number | text | list => simp [isOneOf, FieldValue.isNull]

theorem isOneOf_append :
    isOneOf f actual (items ++ more) = (isOneOf f actual items || isOneOf f actual more) := by
  simp only [isOneOf_eq, List.any_append]

/-- Neither the order of the items matters, nor how often one stands there. -/
theorem isOneOf_congr (h : ∀ item, item ∈ items ↔ item ∈ more) :
    isOneOf f actual items = isOneOf f actual more := by
  rw [isOneOf_eq, isOneOf_eq, Bool.eq_iff_iff, List.any_eq_true, List.any_eq_true]
  simp only [h]

/-- Where loose equality is equality, to be in a list is to equal one of its items. -/
theorem isOneOf_iff_strictEq
    (h : ∀ item ∈ items, actual.looseEq (itemValue f item) = actual.strictEq (itemValue f item)) :
    isOneOf f actual items ↔ ∃ item ∈ items, actual.strictEq (itemValue f item) := by
  rw [isOneOf_eq, List.any_eq_true]
  refine exists_congr fun item => and_congr_right fun hitem => ?_
  rw [h item hitem]

end

/-! ## Tasks -/

/-- The fields of a task that hold a text, if they are set. -/
def Task.textFields : List Field := .project :: Task.dateFields

/-- The fields of a task that hold a collection. -/
def Task.collectionFields : List Field := [.assignees, .labels, .reminders]

theorem Task.record_text (task : Task) {f : Field} (hf : f ∈ textFields) :
    f ≠ .priority ∧ ∃ value, task.record f = .ofText? value := by
  simp only [textFields, dateFields, List.mem_cons, List.not_mem_nil, or_false] at hf
  rcases hf with rfl | rfl | rfl | rfl | rfl | rfl | rfl <;> exact ⟨nofun, _, rfl⟩

theorem Task.record_collection (task : Task) {f : Field} (hf : f ∈ collectionFields) :
    f ≠ .priority ∧ ∃ items, task.record f = .list items := by
  simp only [collectionFields, List.mem_cons, List.not_mem_nil, or_false] at hf
  rcases hf with rfl | rfl | rfl <;> exact ⟨nofun, _, rfl⟩

theorem itemValue_of_ne {f : Field} (hf : f ≠ .priority) (item : String) :
    itemValue f item = .text item := by
  rw [itemValue, if_neg hf]

theorem itemValue_priority {item : String} {p : Priority} (h : Priority.ofName? item = some p) :
    itemValue .priority item = .number (Number.ofInt p.rank) := by
  rw [itemValue, if_pos rfl, h]

/-- **To be in a list is to equal one of its items**: for fields with a text, and for the
    priority if all items name levels.  A collection is in a list of texts without commas
    exactly if it has one item, and that is in the list.  An unset field is in no list; what
    is not in a list is what is `not in` it; a list that is put together from two holds what
    either of them holds; and the order of the items does not matter, nor do repetitions. -/
theorem membership_is_any_equality (items : List String) :
    (∀ (task : Task), ∀ f ∈ Task.textFields,
      Condition.holds ⟨f, .isIn, .list items⟩ task.record ↔
        ∃ item ∈ items, Condition.holds ⟨f, .eq, .text item⟩ task.record) ∧
    ((∀ item ∈ items, ∃ p, Priority.ofName? item = some p) → ∀ task : Task,
      (Condition.holds ⟨.priority, .isIn, .list items⟩ task.record ↔
        ∃ item ∈ items, Condition.holds ⟨.priority, .eq, .text item⟩ task.record)) ∧
    ((∀ item ∈ items, item ≠ "" ∧ ',' ∉ item.toList) →
      ∀ (task : Task), ∀ f ∈ Task.collectionFields,
        (Condition.holds ⟨f, .isIn, .list items⟩ task.record ↔
          ∃ item ∈ items, task.record f = .list [item])) ∧
    (∀ (record : Record) (f : Field), record f = .null →
      Condition.holds ⟨f, .isIn, .list items⟩ record = false) ∧
    (∀ (record : Record) (f : Field),
      Condition.holds ⟨f, .notIn, .list items⟩ record =
        !Condition.holds ⟨f, .isIn, .list items⟩ record) ∧
    (∀ (record : Record) (f : Field) (more : List String),
      Condition.holds ⟨f, .isIn, .list (items ++ more)⟩ record =
        (Condition.holds ⟨f, .isIn, .list items⟩ record ||
          Condition.holds ⟨f, .isIn, .list more⟩ record)) ∧
    (∀ (record : Record) (f : Field) (others : List String),
      (∀ item, item ∈ items ↔ item ∈ others) →
        Condition.holds ⟨f, .isIn, .list items⟩ record =
          Condition.holds ⟨f, .isIn, .list others⟩ record) := by
  refine ⟨fun task f hf => ?_, fun hnames task => ?_, fun hplain task f hf => ?_,
    fun record f hnull => ?_, fun record f => rfl, fun record f more => isOneOf_append,
    fun record f others hsame => isOneOf_congr hsame⟩
  · obtain ⟨hpriority, value, hvalue⟩ := task.record_text hf
    refine isOneOf_iff_strictEq fun item _ => ?_
    rw [hvalue, itemValue_of_ne hpriority]
    cases value with
    | none => rfl
    | some value => exact FieldValue.looseEq_text value item
  · refine isOneOf_iff_strictEq fun item hitem => ?_
    obtain ⟨q, hq⟩ := hnames item hitem
    rw [itemValue_priority hq, Task.record]
    cases task.priority with
    | none => rfl
    | some p => exact p.looseEq_rank q
  · obtain ⟨hpriority, held, hheld⟩ := task.record_collection hf
    rw [Condition.holds]
    dsimp only
    rw [isOneOf_eq, List.any_eq_true, hheld]
    refine exists_congr fun item => and_congr_right fun hitem => ?_
    obtain ⟨hne, hcomma⟩ := hplain item hitem
    rw [itemValue_of_ne hpriority, FieldValue.looseEq_list hne hcomma, FieldValue.list.injEq]
  · rw [Condition.holds]
    dsimp only
    rw [isOneOf, hnull]
    rfl

/-- The names of levels in any case, and a collection of one item. -/
theorem membership_is_any_equality_levels :
    let task : Task := { priority := some .medium, labels := ["b"] }
    (∀ item ∈ ["HIGH", "Medium"], ∃ p, Priority.ofName? item = some p) ∧
      Condition.holds ⟨.priority, .isIn, .list ["HIGH", "Medium"]⟩ task.record = true ∧
      (∀ item ∈ ["a", "b"], item ≠ "" ∧ ',' ∉ item.toList) ∧
      Condition.holds ⟨.labels, .isIn, .list ["a", "b"]⟩ task.record = true := by
  intro task
  have hnames : ∀ item ∈ ["HIGH", "Medium"], ∃ p, Priority.ofName? item = some p := by
    simp only [List.forall_mem_cons]
    exact ⟨⟨.high, by decide +kernel⟩, ⟨.medium, by decide +kernel⟩, by nofun⟩
  have hplain : ∀ item ∈ ["a", "b"], item ≠ "" ∧ ',' ∉ item.toList := by decide
  refine ⟨hnames, ?_, hplain, ?_⟩
  · exact ((membership_is_any_equality _).2.1 hnames task).2 ⟨"Medium", by decide, by decide +kernel⟩
  · exact ((membership_is_any_equality _).2.2.1 hplain task .labels (by decide)).2
      ⟨"b", by decide, rfl⟩

end TaskQuery
