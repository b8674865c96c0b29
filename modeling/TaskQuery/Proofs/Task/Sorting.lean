/-
  TaskQuery — sorted tasks.

  A key gives every task a value, or none.  Sorting puts the values in order, the tasks without
  one last, and keeps tasks with one value in the order of the file.  This settles the
  result, so it does not matter whether tasks are dropped before or after.

  * `SortKey.value?` is the value of a task by a key, `SortKey.Before` the order of the values,
    and `SortKey.Precedes` that of the tasks;
  * `SortKey.compare_isLE_iff` and `SortKey.compare_eq_iff`: `SortKey.compare` goes by them, and is
    a total preorder;
  * `SortedBy key tasks sorted`: the tasks are sorted by the key; `sortedBy_sortTasks`: so
    `sortTasks` sorts them; `SortedBy.unique`: in one way only;
  * `sortTasks_filter` and `sorting_commutes_with_filters`: what is kept of sorted tasks is
    sorted.
-/
import TaskQuery.Proofs.Calendar.Instant
import TaskQuery.Task.Listing

namespace TaskQuery

/-! ## Values that may be missing -/

section
variable {α : Type} {order : α → α → Ordering}

instance [Std.TransCmp order] : Std.TransCmp (missingLast order) where
  eq_swap := by
    rintro (_ | a) (_ | b)
    · rfl
    · rfl
    · rfl
    · show order a b = (order b a).swap
      exact Std.OrientedCmp.eq_swap
  isLE_trans := by
    rintro (_ | a) (_ | b) (_ | c) hab hbc
    · rfl
    · cases hbc
    · rfl
    · cases hab
    · rfl
    · cases hbc
    · rfl
    · have htrans : (order a c).isLE := Std.TransCmp.isLE_trans hab hbc
      exact htrans

theorem missingLast_eq_iff [Std.LawfulEqCmp order] {a b : Option α} :
    missingLast order a b = .eq ↔ a = b := by
  cases a <;> cases b <;> simp [missingLast]

theorem missingLast_eq_lt_iff {a b : Option α} :
    missingLast order a b = .lt ↔ ∃ x ∈ a, ∀ y ∈ b, order x y = .lt := by
  cases a <;> cases b <;> simp [missingLast]

end

/-! ## The values of tasks -/

instance : Std.TransCmp Instant.compare :=
  inferInstanceAs (Std.TransCmp (compareLex (compareOn Instant.second) (compareOn Instant.nano)))

instance : Std.LawfulEqCmp Instant.compare where
  eq_of_compare := by
    rintro ⟨second, nano⟩ ⟨second', nano'⟩ h
    simpa [Instant.compare] using h

instance : Std.LawfulEqCmp fun p q : Priority => Ord.compare q.rank p.rank where
  compare_self := Std.ReflOrd.compare_self
  eq_of_compare := by
    intro p q h
    cases p <;> cases q <;> first | rfl | cases h

namespace SortKey

/-- What tasks are sorted by: instants, priorities or titles. -/
def Value : SortKey → Type
  | due | created => Instant
  | priority => Priority
  | title => String

instance : (key : SortKey) → DecidableEq key.Value
  | due | created => inferInstanceAs (DecidableEq Instant)
  | priority => inferInstanceAs (DecidableEq Priority)
  | title => inferInstanceAs (DecidableEq String)

/-- What a task is sorted by, if it has it: an instant is missing too where the text is none. -/
def value? : (key : SortKey) → Task → Option key.Value
  | due, t => t.dueDate.bind Instant.ofText?
  | created, t => t.created.bind Instant.ofText?
  | priority, t => t.priority
  | title, t => some (Text.lowercase t.title)

/-- A value comes before another: the earlier instant, the higher priority, and the title that is
    smaller in the order of code points. -/
def Before : (key : SortKey) → key.Value → key.Value → Prop
  | due | created => fun (i j : Instant) => i < j
  | priority => fun (p q : Priority) => q.rank < p.rank
  | title => fun (s t : String) => s < t

/-- A task comes before another: it has a value, and the other one has a value that comes after
    it, or none. -/
def Precedes (key : SortKey) (a b : Task) : Prop :=
  ∃ x ∈ key.value? a, ∀ y ∈ key.value? b, key.Before x y

/-- The order of values that tasks are compared by. -/
def order : (key : SortKey) → key.Value → key.Value → Ordering
  | due | created => Instant.compare
  | priority => fun (p q : Priority) => Ord.compare q.rank p.rank
  | title => fun (s t : String) => Ord.compare s t

variable {key : SortKey} {a b : Task}

instance : Std.TransCmp key.order :=
  match key with
  | due | created => inferInstanceAs (Std.TransCmp Instant.compare)
  | priority => inferInstanceAs (Std.TransCmp fun p q : Priority => compareOn Priority.rank q p)
  | title => inferInstanceAs (Std.TransCmp fun s t : String => Ord.compare s t)

instance : Std.LawfulEqCmp key.order :=
  match key with
  | due | created => inferInstanceAs (Std.LawfulEqCmp Instant.compare)
  | priority => inferInstanceAs (Std.LawfulEqCmp fun p q : Priority => Ord.compare q.rank p.rank)
  | title => inferInstanceAs (Std.LawfulEqCmp fun s t : String => Ord.compare s t)

theorem order_eq_lt_iff {x y : key.Value} : key.order x y = .lt ↔ key.Before x y := by
  cases key with
  | due | created => exact Instant.compare_eq_lt
  | priority => exact Nat.compare_eq_lt
  | title => exact compareOfLessAndEq_eq_lt

/-- Tasks are compared by their values. -/
theorem compare_eq : key.compare a b = missingLast key.order (key.value? a) (key.value? b) := by
  cases key <;> rfl

instance : Std.TransCmp key.compare where
  eq_swap := by
    intro a b
    rw [compare_eq, compare_eq]
    exact Std.OrientedCmp.eq_swap
  isLE_trans := by
    intro a b c
    rw [compare_eq, compare_eq, compare_eq]
    exact Std.TransCmp.isLE_trans

/-- Tasks are equal by a key if they have the same value, or both none. -/
theorem compare_eq_iff : key.compare a b = .eq ↔ key.value? a = key.value? b := by
  rw [compare_eq, missingLast_eq_iff]

theorem compare_eq_lt_iff : key.compare a b = .lt ↔ key.Precedes a b := by
  simp only [compare_eq, missingLast_eq_lt_iff, order_eq_lt_iff, Precedes]

theorem compare_isLE_iff : (key.compare a b).isLE ↔ ¬ key.Precedes b a := by
  have hswap : key.compare a b = (key.compare b a).swap := Std.OrientedCmp.eq_swap
  rw [← compare_eq_lt_iff, hswap]
  cases key.compare b a <;> decide

end SortKey

/-! ## Sorted lists -/

section
variable {α κ : Type} [DecidableEq κ] {value : α → κ} {s t : List α}

theorem mem_of_filter_eq
    (hsame : ∀ v, s.filter (fun a => value a = v) = t.filter fun a => value a = v) {a : α}
    (ha : a ∈ s) : a ∈ t := by
  have hin : a ∈ s.filter (fun b => value b = value a) := by simp [ha]
  rw [hsame] at hin
  exact (List.mem_filter.1 hin).1

/-- Lists in order that have the same elements of every value, in the same order, are equal. -/
theorem eq_of_filter_eq {le : α → α → Prop} (hle : ∀ a b, le a b → le b a → value a = value b)
    (hs : s.Pairwise le) (ht : t.Pairwise le)
    (hsame : ∀ v, s.filter (fun a => value a = v) = t.filter fun a => value a = v) : s = t := by
  have hsame' : ∀ v, t.filter (fun a => value a = v) = s.filter fun a => value a = v :=
    fun v => (hsame v).symm
  induction s generalizing t with
  | nil =>
    cases t with
    | nil => rfl
    | cons b t => exact absurd (mem_of_filter_eq hsame' List.mem_cons_self) List.not_mem_nil
  | cons a s ih =>
    cases t with
    | nil => exact absurd (mem_of_filter_eq hsame List.mem_cons_self) List.not_mem_nil
    | cons b t =>
      obtain ⟨has, hs'⟩ := List.pairwise_cons.1 hs
      obtain ⟨hbt, ht'⟩ := List.pairwise_cons.1 ht
      -- each of the first elements comes before the other one, so they have one value
      have hvalue : value a = value b := by
        rcases List.mem_cons.1 (mem_of_filter_eq hsame List.mem_cons_self) with rfl | hat
        · rfl
        rcases List.mem_cons.1 (mem_of_filter_eq hsame' List.mem_cons_self) with rfl | hbs
        · rfl
        · exact hle a b (has b hbs) (hbt a hat)
      -- and both are the first of that value
      obtain rfl : a = b := by
        have hfirst := hsame (value a)
        rw [List.filter_cons_of_pos (by simp), List.filter_cons_of_pos (by simp [hvalue])] at hfirst
        exact (List.cons.inj hfirst).1
      have hrest (v : κ) : s.filter (fun a => value a = v) = t.filter fun a => value a = v := by
        have h := hsame v
        by_cases hv : value a = v
        · simpa [hv] using h
        · simpa [hv] using h
      rw [ih hs' ht' hrest fun v => (hrest v).symm]

end

/-- Tasks are sorted by a key. -/
structure SortedBy (key : SortKey) (tasks sorted : List Task) : Prop where
  /-- They are the same tasks. -/
  perm : sorted.Perm tasks
  /-- No value comes before one in front of it. -/
  ordered : sorted.Pairwise fun a b => ∀ x ∈ key.value? a, ∀ y ∈ key.value? b, ¬ key.Before y x
  /-- The tasks without a value come last. -/
  missing : sorted.Pairwise fun a b => key.value? a = none → key.value? b = none
  /-- The tasks with one value, or with none, keep their order. -/
  stable : ∀ v, sorted.filter (fun t => key.value? t = v) = tasks.filter fun t => key.value? t = v

section
variable {key : SortKey} {tasks sorted sorted' : List Task}

theorem SortKey.not_precedes_iff {a b : Task} : ¬ key.Precedes b a ↔
    (∀ x ∈ key.value? a, ∀ y ∈ key.value? b, ¬ key.Before y x) ∧
      (key.value? a = none → key.value? b = none) := by
  unfold Precedes
  cases key.value? a <;> cases key.value? b <;> simp

section
variable (key : SortKey) (tasks : List Task)

theorem compare_isLE_total (a b : Task) :
    ((key.compare a b).isLE || (key.compare b a).isLE) = true := by
  have hswap : key.compare b a = (key.compare a b).swap := Std.OrientedCmp.eq_swap
  rw [hswap]
  cases key.compare a b <;> rfl

theorem pairwise_sortTasks : (sortTasks key tasks).Pairwise fun a b => (key.compare a b).isLE :=
  List.pairwise_mergeSort (fun _ _ _ => Std.TransCmp.isLE_trans) (compare_isLE_total key) tasks

/-- Tasks with one value stay in order: they are sorted already. -/
theorem filter_sortTasks (v : Option key.Value) :
    (sortTasks key tasks).filter (fun t => key.value? t = v) =
      tasks.filter fun t => key.value? t = v := by
  have hequal :
      (tasks.filter fun t => key.value? t = v).Pairwise fun a b => (key.compare a b).isLE := by
    refine List.pairwise_of_forall_mem_list fun a ha b hb => ?_
    have hva : key.value? a = v := by simpa using (List.mem_filter.1 ha).2
    have hvb : key.value? b = v := by simpa using (List.mem_filter.1 hb).2
    rw [SortKey.compare_eq_iff.2 (hva.trans hvb.symm)]
    rfl
  have hsublist := (List.sublist_mergeSort (fun _ _ _ => Std.TransCmp.isLE_trans)
    (compare_isLE_total key) hequal List.filter_sublist).filter fun t => key.value? t = v
  rw [List.filter_filter] at hsublist
  simp only [Bool.and_self] at hsublist
  exact (hsublist.eq_of_length ((sortTasks_perm key tasks).filter _).length_eq.symm).symm

end

/-- **Sorting sorts.** -/
theorem sortedBy_sortTasks (key : SortKey) (tasks : List Task) :
    SortedBy key tasks (sortTasks key tasks) := by
  have hpairwise := (pairwise_sortTasks key tasks).imp fun h =>
    SortKey.not_precedes_iff.1 (SortKey.compare_isLE_iff.1 h)
  exact ⟨sortTasks_perm key tasks, hpairwise.imp And.left, hpairwise.imp And.right,
    filter_sortTasks key tasks⟩

theorem SortedBy.pairwise (h : SortedBy key tasks sorted) :
    sorted.Pairwise fun a b => ¬ key.Precedes b a :=
  (h.ordered.and h.missing).imp SortKey.not_precedes_iff.2

/-- **There is one way to sort tasks by a key.** -/
theorem SortedBy.unique (h : SortedBy key tasks sorted) (h' : SortedBy key tasks sorted') :
    sorted = sorted' := by
  refine eq_of_filter_eq (fun a b hab hba => ?_) h.pairwise h'.pairwise fun v =>
    (h.stable v).trans (h'.stable v).symm
  rw [← SortKey.compare_isLE_iff] at hab hba
  exact SortKey.compare_eq_iff.1 (Std.OrientedCmp.isLE_antisymm hab hba)

/-- What is kept of sorted tasks is sorted. -/
theorem SortedBy.filter (h : SortedBy key tasks sorted) (keep : Task → Bool) :
    SortedBy key (tasks.filter keep) (sorted.filter keep) where
  perm := h.perm.filter keep
  ordered := h.ordered.filter keep
  missing := h.missing.filter keep
  stable v := by
    have hcomm (l : List Task) : (l.filter keep).filter (fun t => key.value? t = v) =
        (l.filter fun t => key.value? t = v).filter keep := by
      simp only [List.filter_filter, Bool.and_comm]
    rw [hcomm, hcomm, h.stable]

/-- Sorting what is kept is keeping what is sorted. -/
theorem sortTasks_filter (key : SortKey) (tasks : List Task) (keep : Task → Bool) :
    sortTasks key (tasks.filter keep) = (sortTasks key tasks).filter keep :=
  (sortedBy_sortTasks key (tasks.filter keep)).unique ((sortedBy_sortTasks key tasks).filter keep)

end

/-! ## Arrangements -/

/-- The tasks in the order of an arrangement, before they are reversed. -/
def Arrangement.sorted (a : Arrangement) (tasks : List Task) : List Task :=
  match a.sort with
  | some key => sortTasks key tasks
  | none => tasks

theorem Arrangement.order_eq (a : Arrangement) (tasks : List Task) :
    a.order tasks = if a.reverse then (a.sorted tasks).reverse else a.sorted tasks := rfl

theorem Arrangement.sorted_filter (a : Arrangement) (tasks : List Task) (keep : Task → Bool) :
    a.sorted (tasks.filter keep) = (a.sorted tasks).filter keep := by
  unfold sorted
  cases a.sort with
  | none => rfl
  | some key => exact sortTasks_filter key tasks keep

/-- Arranging what is kept is keeping what is arranged. -/
theorem Arrangement.order_filter (a : Arrangement) (tasks : List Task) (keep : Task → Bool) :
    a.order (tasks.filter keep) = (a.order tasks).filter keep := by
  rw [order_eq, order_eq, sorted_filter]
  split
  · exact List.filter_reverse.symm
  · rfl

/-- **Sorting and filtering commute.**  Whatever tasks are sorted by, and whether they are reversed,
    to sort the tasks that a filter keeps is to keep those of all the sorted tasks.  So a filter
    does not change the order of the tasks that remain. -/
theorem sorting_commutes_with_filters (filter : Option Expression) (a : Arrangement)
    (tasks : List Task) :
    a.order (filterRecords filter Task.record tasks) =
        filterRecords filter Task.record (a.order tasks) ∧
      (a.order (filterRecords filter Task.record tasks)).Sublist (a.order tasks) := by
  have hcommutes : a.order (filterRecords filter Task.record tasks) =
      filterRecords filter Task.record (a.order tasks) :=
    a.order_filter tasks fun t => keeps filter t.record
  refine ⟨hcommutes, ?_⟩
  rw [hcommutes]
  exact List.filter_sublist

end TaskQuery
