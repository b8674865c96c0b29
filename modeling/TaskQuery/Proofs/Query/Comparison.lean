/-
  TaskQuery — the comparisons as a family.

  A condition compares the value of a field with a single value.  Between values of one kind
  that has an order the six comparisons fit together as on a line; else none of the four
  that order holds.

  * `FieldValue.kind` is the kind of a value, and `FieldValue.Unordered a b` says that `a` is
    unset, a collection, or of another kind than `b`;
  * `FieldValue.compare?_swap`: comparing the other way round reverses the order;
  * `FieldValue.exists_compare?`: values that are not unordered are in an order, unless one
    is NaN, and equal values are in none but that of equals;
  * `comparisons_agree`: what the comparisons of one field and one value have to do with each
    other.
-/
import TaskQuery.Proofs.Query.CurrentInstant
import TaskQuery.Proofs.Query.Like

namespace TaskQuery

/-! ## Kinds of values -/

/-- The kinds of values. -/
inductive FieldValue.Kind where
  /-- No value. -/
  | null
  /-- Truth values. -/
  | bool
  /-- Numbers. -/
  | number
  /-- Texts. -/
  | text
  /-- Collections of texts. -/
  | list
  deriving DecidableEq

namespace FieldValue

/-- The kind of a value. -/
def kind : FieldValue → Kind
  | null => .null
  | bool _ => .bool
  | number _ => .number
  | text _ => .text
  | list _ => .list

/-- A value is unset, a collection, or of another kind than what it is compared with. -/
def Unordered (a b : FieldValue) : Prop :=
  a.kind = .null ∨ a.kind = .list ∨ a.kind ≠ b.kind

instance (a b : FieldValue) : Decidable (a.Unordered b) :=
  inferInstanceAs (Decidable (_ ∨ _ ∨ _))

/-! ## The order of values -/

theorem compareTexts_swap (a b : String) : compareTexts b a = (compareTexts a b).swap := by
  unfold compareTexts
  cases Instant.ofText? a with
  | none => cases Instant.ofText? b <;> exact Std.OrientedOrd.eq_swap
  | some i =>
    cases Instant.ofText? b with
    | none => exact Std.OrientedOrd.eq_swap
    | some j => exact Instant.compare_swap i j

theorem compareTexts_self (a : String) : compareTexts a a = .eq := by
  have hswap := compareTexts_swap a a
  cases h : compareTexts a a with
  | eq => rfl
  | lt | gt =>
    rw [h] at hswap
    cases hswap

/-- Comparing the other way round reverses the order, if there is one. -/
theorem compare?_swap (a b : FieldValue) : b.compare? a = (a.compare? b).map Ordering.swap := by
  cases a with
  | null | list => cases b <;> rfl
  | bool x =>
    cases b with
    | bool y => exact congrArg some Std.OrientedOrd.eq_swap
    | null | number | text | list => rfl
  | number x =>
    cases b with
    | number y => exact Number.compare?_swap x y
    | null | bool | text | list => rfl
  | text x =>
    cases b with
    | text y => exact congrArg some (compareTexts_swap x y)
    | null | bool | number | list => rfl

theorem compare?_of_unordered {a b : FieldValue} (h : a.Unordered b) : a.compare? b = none := by
  cases a <;> cases b <;> simp_all [Unordered, kind, compare?]

theorem exists_compare?_number {x y : Number} (hx : x ≠ .nan) (hy : y ≠ .nan) :
    ∃ order, x.compare? y = some order := by
  cases x <;> cases y <;> simp_all [Number.compare?, Number.rank]

/-- Values that are not unordered are in an order, and equal values in that of equals. -/
theorem exists_compare? {a b : FieldValue} (h : ¬ a.Unordered b) (ha : a ≠ .number .nan)
    (hb : b ≠ .number .nan) :
    ∃ order, a.compare? b = some order ∧ (a.strictEq b → order = .eq) := by
  obtain ⟨hnull, hlist, hkind⟩ : a.kind ≠ .null ∧ a.kind ≠ .list ∧ a.kind = b.kind := by
    simpa [Unordered] using h
  cases a with
  | null => exact absurd rfl hnull
  | list => exact absurd rfl hlist
  | bool x =>
    cases b with
    | bool y =>
      refine ⟨_, rfl, fun heq => ?_⟩
      rw [beq_iff_eq.1 heq]
      exact Std.ReflOrd.compare_self
    | null | number | text | list => cases hkind
  | number x =>
    cases b with
    | number y =>
      obtain ⟨order, horder⟩ := exists_compare?_number (fun hx : x = .nan => ha (by rw [hx]))
        (fun hy : y = .nan => hb (by rw [hy]))
      refine ⟨order, horder, fun heq => ?_⟩
      rw [strictEq, Number.equal, horder] at heq
      simpa using heq
    | null | bool | text | list => cases hkind
  | text x =>
    cases b with
    | text y =>
      refine ⟨_, rfl, fun heq => ?_⟩
      rw [beq_iff_eq.1 heq]
      exact compareTexts_self y
    | null | bool | number | list => cases hkind

end FieldValue

/-! ## Literals -/

theorem Number.ofInt_ne_nan (i : Int) : ofInt i ≠ .nan := by
  unfold ofInt ofRatio ofStep
  split <;> nofun

/-- A single value is a number only if it is one. -/
theorem Literal.Shows.literalValue_ne_nan {literal : Literal} {shown : String}
    (h : literal.Shows shown) (f : Field) : literalValue f literal ≠ .number .nan := by
  cases literal with
  | text value =>
    rw [literalValue, itemValue]
    split
    · exact fun heq => Number.ofInt_ne_nan _ (FieldValue.number.inj heq)
    · intro heq
      cases heq
  | list items => exact h.elim
  | number value =>
    obtain ⟨hfinite, -⟩ := h
    intro heq
    cases heq
    cases hfinite
  | bool value =>
    intro heq
    cases heq

/-! ## Conditions -/

/-- **The comparisons of a field with a single value fit together.**  What is not equal is
    what does not equal.  Against a value of another kind none of the four orders holds, nor
    does one for a field that is unset or a collection; and an unset field equals nothing and
    contains nothing.  All other values are smaller, greater, or both at most and at least
    as great: one of the three, and no two; what is at most as great is what is not greater,
    what is at least as great is what is not smaller, and equal values are both.  And
    comparing any two values the other way round reverses their order. -/
theorem comparisons_agree {record : Record} {f : Field} {literal : Literal} {shown : String}
    (hsingle : literal.Shows shown) (hnan : record f ≠ .number .nan) :
    let holds (o : Operator) : Bool := Condition.holds ⟨f, o, literal⟩ record
    let value := literalValue f literal
    holds .notEq = !holds .eq ∧
    ((record f).Unordered value → ∀ o ∈ Operator.ordering, holds o = false) ∧
    (record f = .null → holds .eq = false ∧ holds .like = false) ∧
    (¬ (record f).Unordered value →
      [holds .lt, holds .gt, holds .le && holds .ge].count true = 1 ∧
      holds .le = !holds .gt ∧ holds .ge = !holds .lt ∧
      (holds .eq = true → holds .le = true ∧ holds .ge = true)) ∧
    ∀ a b : FieldValue, b.compare? a = (a.compare? b).map Ordering.swap := by
  intro holds value
  have hlist (items : List String) : literal ≠ .list items := by
    rintro rfl
    exact hsingle
  have hordering {o : Operator} (ho : o ∈ Operator.ordering) :
      holds o = ordered (record f) value o.accepts := holds_of_ordering hlist ho
  have heq : holds .eq = (record f).strictEq value := by
    cases literal with
    | list items => exact absurd rfl (hlist items)
    | text | number | bool => rfl
  have hnotEq : holds .notEq = !(record f).strictEq value := by
    cases literal with
    | list items => exact absurd rfl (hlist items)
    | text | number | bool => rfl
  refine ⟨by rw [hnotEq, heq], fun hunordered o ho => ?_, fun hnull => ⟨?_, ?_⟩,
    fun hordered => ?_, FieldValue.compare?_swap⟩
  · rw [hordering ho, ordered, FieldValue.compare?_of_unordered hunordered]
  · rw [heq, hnull]
    rfl
  · have hlike : holds .like = isLike (record f) literal := by
      cases literal with
      | list items => exact absurd rfl (hlist items)
      | text | number | bool => rfl
    rw [hlike, hnull, isLike, hsingle.pattern?_eq]
    rfl
  · obtain ⟨order, horder, hequal⟩ :=
      FieldValue.exists_compare? hordered hnan (hsingle.literalValue_ne_nan f)
    have haccepts {o : Operator} (ho : o ∈ Operator.ordering) : holds o = o.accepts order := by
      rw [hordering ho, ordered, horder]
    rw [haccepts (o := .lt) (by decide), haccepts (o := .gt) (by decide),
      haccepts (o := .le) (by decide), haccepts (o := .ge) (by decide), heq]
    refine ⟨by cases order <;> decide, by cases order <;> rfl, by cases order <;> rfl, ?_⟩
    intro hstrict
    rw [hequal hstrict]
    decide

/-- Two texts of one instant: they are not equal, but neither is before the other. -/
theorem comparisons_agree_on_offsets :
    let task : Task := { dueDate := some "2024-05-01T12:00:00+02:00" }
    let holds (o : Operator) : Bool :=
      Condition.holds ⟨.dueDate, o, .text "2024-05-01T10:00:00Z"⟩ task.record
    task.record .dueDate ≠ .number .nan ∧ holds .notEq = !holds .eq ∧
      [holds .lt, holds .gt, holds .le && holds .ge].count true = 1 ∧ holds .lt = false ∧
      holds .gt = false ∧ holds .eq = false := by
  intro task holds
  have hnan : task.record .dueDate ≠ .number .nan := by nofun
  obtain ⟨hnotEq, -, -, hordered, -⟩ :=
    comparisons_agree (Literal.shows_text "2024-05-01T10:00:00Z") hnan
  obtain ⟨hone, -⟩ := hordered (by decide)
  exact ⟨hnan, hnotEq, hone, by decide +kernel, by decide +kernel, by decide +kernel⟩

end TaskQuery
