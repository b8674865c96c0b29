/-
  TaskQuery — comparisons with the current instant.

  The word `now` stands for the instant at which a query is read, rounded down to the
  millisecond, so comparing a date with it tells what is past from what is not.

  * `nowQuery f o`: the query that compares a field with `now`; `parseQuery_nowQuery`: it is
    accepted;
  * `Decides query now record p`: the query is accepted, and keeps the record exactly if
    `p` holds;
  * `holds_now_of_instant`: an instant in a field is ordered against `now`, and by
    `holds_of_null` a field that is not set is in no order;
  * `now_divides_dated_tasks`: before `now` and not before it, every task with a date is one
    of the two.
-/
import TaskQuery.Proofs.Calendar.Instant
import TaskQuery.Proofs.Query.Acceptance
import TaskQuery.Proofs.Query.Lexeme
import TaskQuery.Task.Listing

namespace TaskQuery

/-- The fields of a task that hold a date or a time. -/
def Task.dateFields : List Field :=
  [.dueDate, .startDate, .endDate, .doneAt, .created, .updated]

/-- The operators that order. -/
def Operator.ordering : List Operator := [.lt, .le, .gt, .ge]

/-- The orders of the two sides that an operator accepts. -/
def Operator.accepts : Operator → Ordering → Bool
  | lt => Ordering.isLT
  | le => Ordering.isLE
  | gt => Ordering.isGT
  | ge => Ordering.isGE
  | _ => fun _ => false

/-- The query that compares a field with `now`. -/
def nowQuery (f : Field) (o : Operator) : String :=
  f.name ++ " " ++ o.symbol ++ " now"

/-- The query is accepted at an instant, and keeps the record exactly if `p` holds. -/
def Decides (query : String) (now : Instant) (record : Record) (p : Prop) : Prop :=
  ∃ filter, parseQuery query now = .ok filter ∧ (keeps filter record ↔ p)

variable {now t : Instant} {f : Field} {o : Operator} {record : Record} {text : String}

/-! ## Queries -/

theorem takesList_of_ordering (ho : o ∈ Operator.ordering) : o.takesList = false := by
  simp only [Operator.ordering, List.mem_cons, List.not_mem_nil, or_false] at ho
  rcases ho with rfl | rfl | rfl | rfl <;> rfl

theorem parseQuery_nowQuery (f : Field) (ho : o ∈ Operator.ordering) (now : Instant) :
    parseQuery (nowQuery f o) now = .ok (some (.condition ⟨f, o, .text now.toText⟩)) := by
  have htext : (nowQuery f o).toList =
      f.name.toList ++ ' ' :: (o.symbol.toList ++ ' ' :: ['n', 'o', 'w']) := by
    simp [nowQuery]
  have hword : tokensOf ['n', 'o', 'w'] = [.bare "now"] := by decide
  have hx : DerivesCondition now (tokenize (nowQuery f o)) ⟨f, o, .text now.toText⟩ := by
    rw [tokenize_eq, htext]
    exact (derives_conditionText (takesList_of_ordering ho) (by decide) hword (by decide)).2
  refine parseQuery_eq_some_iff.2 ⟨?_, .term (.operand (.condition hx))⟩
  rw [hx.countP_joins]
  decide

theorem applyFilter_nowQuery {α : Type} (f : Field) (ho : o ∈ Operator.ordering) (now : Instant)
    (view : α → Record) (records : List α) :
    applyFilter view (nowQuery f o) records now =
      ⟨records.filter fun r => Condition.holds ⟨f, o, .text now.toText⟩ (view r), none⟩ := by
  rw [applyFilter, parseQuery_nowQuery f ho]
  rfl

/-! ## Comparisons -/

theorem text_ne_list (value : String) (items : List String) :
    Literal.text value ≠ .list items := nofun

theorem holds_of_ordering {literal : Literal} (hsingle : ∀ items, literal ≠ .list items)
    (ho : o ∈ Operator.ordering) :
    Condition.holds ⟨f, o, literal⟩ record =
      ordered (record f) (literalValue f literal) o.accepts := by
  simp only [Operator.ordering, List.mem_cons, List.not_mem_nil, or_false] at ho
  cases literal with
  | list items => exact absurd rfl (hsingle items)
  | text | number | bool => rcases ho with rfl | rfl | rfl | rfl <;> rfl

/-- **An instant in a field is ordered against `now`**, which is rounded down to the
    millisecond. -/
theorem holds_now_of_instant (hyears : now.InFourDigitYears) (hnano : now.nano < nanosPerSecond)
    (hf : f ≠ .priority) (htext : record f = .text text) (ht : Instant.ofText? text = some t)
    (ho : o ∈ Operator.ordering) :
    Condition.holds ⟨f, o, .text now.toText⟩ record = o.accepts (t.compare now.floorMilli) := by
  rw [holds_of_ordering (text_ne_list _) ho, literalValue, itemValue, if_neg hf, htext, ordered,
    FieldValue.compare?, FieldValue.compareTexts, ht, Instant.ofText?_toText hyears hnano]

/-- A field that is not set is in no order. -/
theorem holds_of_null (hnull : record f = .null) (ho : o ∈ Operator.ordering) :
    Condition.holds ⟨f, o, .text text⟩ record = false := by
  rw [holds_of_ordering (text_ne_list _) ho, hnull]
  rfl

theorem decides_now (ho : o ∈ Operator.ordering) {p : Prop}
    (h : Condition.holds ⟨f, o, .text now.toText⟩ record ↔ p) : Decides (nowQuery f o) now record p :=
  ⟨_, parseQuery_nowQuery f ho now, h⟩

/-- **`now` divides the tasks with a date.**  Let a date or time of a task be read as the
    instant `t`: it is before `now` exactly if `t` is before the instant of the query,
    rounded down to the millisecond, and so for the other three relations.  Tasks without
    the date are in none of them; and of tasks with it, each is either before `now` or
    not before it. -/
theorem now_divides_dated_tasks (hyears : now.InFourDigitYears) (hnano : now.nano < nanosPerSecond)
    (hf : f ∈ Task.dateFields) :
    (∀ (task : Task) (text : String) (t : Instant),
      task.record f = .text text → Instant.ofText? text = some t →
        Decides (nowQuery f .lt) now task.record (t < now.floorMilli) ∧
        Decides (nowQuery f .le) now task.record (t ≤ now.floorMilli) ∧
        Decides (nowQuery f .gt) now task.record (now.floorMilli < t) ∧
        Decides (nowQuery f .ge) now task.record (now.floorMilli ≤ t)) ∧
    (∀ task : Task, task.record f = .null → ∀ o ∈ Operator.ordering,
      Decides (nowQuery f o) now task.record False) ∧
    (∀ tasks : List Task,
      (∀ task ∈ tasks, ∃ text t, task.record f = .text text ∧ Instant.ofText? text = some t) →
      ((applyFilter Task.record (nowQuery f .lt) tasks now).kept ++
        (applyFilter Task.record (nowQuery f .ge) tasks now).kept).Perm tasks) := by
  have hpriority : f ≠ .priority := by
    rintro rfl
    exact absurd hf (by decide)
  have hholds {task : Task} {text : String} {t : Instant} (htext : task.record f = .text text)
      (ht : Instant.ofText? text = some t) {o : Operator} (ho : o ∈ Operator.ordering) :
      Condition.holds ⟨f, o, .text now.toText⟩ task.record = o.accepts (t.compare now.floorMilli) :=
    holds_now_of_instant hyears hnano hpriority htext ht ho
  refine ⟨fun task text t htext ht => ⟨?_, ?_, ?_, ?_⟩, fun task hnull o ho => ?_,
    fun tasks hdated => ?_⟩
  · refine decides_now (by decide) ?_
    rw [hholds htext ht (by decide), Operator.accepts, Instant.compare_isLT, decide_eq_true_iff]
  · refine decides_now (by decide) ?_
    rw [hholds htext ht (by decide), Operator.accepts, Instant.compare_isLE, decide_eq_true_iff]
  · refine decides_now (by decide) ?_
    rw [hholds htext ht (by decide), Operator.accepts, Instant.compare_isGT, decide_eq_true_iff]
  · refine decides_now (by decide) ?_
    rw [hholds htext ht (by decide), Operator.accepts, Instant.compare_isGE, decide_eq_true_iff]
  · exact decides_now ho (by simp [holds_of_null hnull ho])
  · have hnot : ∀ task ∈ tasks, Condition.holds ⟨f, .ge, .text now.toText⟩ task.record =
        !Condition.holds ⟨f, .lt, .text now.toText⟩ task.record := by
      intro task htask
      obtain ⟨text, t, htext, ht⟩ := hdated task htask
      rw [hholds htext ht (by decide), hholds htext ht (by decide)]
      cases t.compare now.floorMilli <;> rfl
    rw [applyFilter_nowQuery f (by decide), applyFilter_nowQuery f (by decide)]
    dsimp only
    rw [List.filter_congr hnot]
    exact List.filter_append_perm _ tasks

/-- A due date that is the instant of the query, rounded down, at another offset. -/
theorem now_divides_at_new_year :
    let now : Instant := ⟨1704067199, 999999999⟩
    let task : Task := { dueDate := some "2024-01-01T00:59:59.999+01:00" }
    now.InFourDigitYears ∧ Decides "dueDate < now" now task.record False ∧
      Decides "dueDate >= now" now task.record True := by
  intro now task
  have hyears : now.InFourDigitYears := by decide
  have ht : Instant.ofText? "2024-01-01T00:59:59.999+01:00" = some ⟨1704067199, 999000000⟩ := by
    decide +kernel
  obtain ⟨hlt, -, -, hge⟩ := (now_divides_dated_tasks hyears (by decide) (f := .dueDate)
    (by decide)).1 task _ _ rfl ht
  rw [eq_false (by decide : ¬ (⟨1704067199, 999000000⟩ : Instant) < now.floorMilli)] at hlt
  rw [eq_true (by decide : now.floorMilli ≤ (⟨1704067199, 999000000⟩ : Instant))] at hge
  exact ⟨hyears, hlt, hge⟩

end TaskQuery
