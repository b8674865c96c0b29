/-
  TaskQuery — the edit distance is the length of the shortest edit script.

  * `Edit a b`: one character of a text is inserted, deleted or replaced; `Edits n a b`: so many
    edits lead from the one text to the other;
  * `extendRow_cons` and `distanceRow_cons`: the rows of distances; `editDistance_cons_cons`: so
    the distance of two texts is told by what is behind their first characters;
  * `edits_editDistance`: as many edits are enough as the distance says;
  * `near_cons_left` and `near_cons_right`: one character more changes a distance by one at most;
    `Edit.editDistance_le`: so does one edit, wherever it is; `Edits.editDistance_le`: so fewer
    edits than the distance are never enough;
  * `editDistance_isLeast`: the distance is the least number of edits.
-/
import Mathlib.Order.Bounds.Defs
import Mathlib.Order.MinMax
import Mathlib.Tactic.SplitIfs
import TaskQuery.Query.Rejection

namespace TaskQuery.Text

variable {n d : Nat} {row : List Nat} {c x y : Char} {xs ys a b : List Char}

/-! ## Edit scripts -/

/-- One character is inserted, deleted or replaced, at any place. -/
inductive Edit : List Char → List Char → Prop
  /-- A character is inserted. -/
  | insert (c : Char) (a : List Char) : Edit a (c :: a)
  /-- A character is deleted. -/
  | delete (c : Char) (a : List Char) : Edit (c :: a) a
  /-- A character is replaced. -/
  | substitute (c d : Char) (a : List Char) : Edit (c :: a) (d :: a)
  /-- A character stays, and the edit is behind it. -/
  | behind (c : Char) {a b : List Char} : Edit a b → Edit (c :: a) (c :: b)

/-- So many edits lead from one text to another. -/
inductive Edits : Nat → List Char → List Char → Prop
  | none (a : List Char) : Edits 0 a a
  | step {n : Nat} {a b c : List Char} : Edit a b → Edits n b c → Edits (n + 1) a c

/-- Edits can be done behind a character that stays. -/
theorem Edits.behind (c : Char) (h : Edits n a b) : Edits n (c :: a) (c :: b) := by
  induction h with
  | none a => exact .none (c :: a)
  | step hedit _ ih => exact .step (.behind c hedit) ih

/-! ## Rows -/

/-- The distance in front is told by the three around it. -/
theorem extendRow_cons (hrow : row ≠ []) (hnew : extendRow x ys row ≠ []) :
    extendRow x (y :: ys) (d :: row) =
      (if x = y then row.headD 0
        else 1 + min (row.headD 0) (min d ((extendRow x ys row).headD 0))) ::
          extendRow x ys row := by
  obtain ⟨e, row, rfl⟩ := List.exists_cons_of_ne_nil hrow
  obtain ⟨f, new, h⟩ := List.exists_cons_of_ne_nil hnew
  rw [extendRow, h]
  rfl

theorem length_extendRow (h : row.length = ys.length + 1) :
    (extendRow x ys row).length = ys.length + 1 := by
  induction ys generalizing row with
  | nil =>
    obtain ⟨d, rfl⟩ := List.length_eq_one_iff.1 h
    rfl
  | cons y ys ih =>
    obtain ⟨d, row, rfl⟩ := List.exists_cons_of_length_eq_add_one h
    have hrow : row.length = ys.length + 1 := Nat.succ.inj h
    have hnew := ih hrow
    rw [extendRow_cons (List.ne_nil_of_length_eq_add_one hrow)
      (List.ne_nil_of_length_eq_add_one hnew), List.length_cons, hnew, List.length_cons]

theorem length_distanceRow (xs ys : List Char) : (distanceRow xs ys).length = ys.length + 1 := by
  induction xs with
  | nil =>
    have hempty (ys : List Char) : (emptyRow ys).length = ys.length + 1 := by
      induction ys with
      | nil => rfl
      | cons y ys ih => rw [emptyRow, List.length_cons, ih, List.length_cons]
    exact hempty ys
  | cons x xs ih => exact length_extendRow ih

theorem distanceRow_ne_nil (xs ys : List Char) : distanceRow xs ys ≠ [] :=
  List.ne_nil_of_length_eq_add_one (length_distanceRow xs ys)

/-- The row of a longer text has one distance more in front. -/
theorem distanceRow_cons (xs : List Char) (y : Char) (ys : List Char) :
    distanceRow xs (y :: ys) = editDistance xs (y :: ys) :: distanceRow xs ys := by
  obtain ⟨d, hd⟩ : ∃ d, distanceRow xs (y :: ys) = d :: distanceRow xs ys := by
    induction xs with
    | nil => exact ⟨_, rfl⟩
    | cons x xs ih =>
      obtain ⟨d, hd⟩ := ih
      have hrow : distanceRow (x :: xs) (y :: ys) = extendRow x (y :: ys) (d :: distanceRow xs ys) :=
        congrArg (extendRow x (y :: ys)) hd
      exact ⟨_, hrow.trans
        (extendRow_cons (distanceRow_ne_nil xs ys) (distanceRow_ne_nil (x :: xs) ys))⟩
  rw [editDistance, hd]
  rfl

theorem editDistance_nil_right (xs : List Char) : editDistance xs [] = xs.length := by
  have hrow : distanceRow xs [] = [xs.length] := by
    induction xs with
    | nil => rfl
    | cons x xs ih =>
      have hextend : distanceRow (x :: xs) [] = extendRow x [] (distanceRow xs []) := rfl
      rw [hextend, ih]
      rfl
  rw [editDistance, hrow]
  rfl

/-- The distance of two texts is told by what is behind their first characters. -/
theorem editDistance_cons_cons (x y : Char) (xs ys : List Char) :
    editDistance (x :: xs) (y :: ys) =
      if x = y then editDistance xs ys
      else 1 + min (editDistance xs ys)
        (min (editDistance xs (y :: ys)) (editDistance (x :: xs) ys)) := by
  have hrow : distanceRow (x :: xs) (y :: ys) =
      extendRow x (y :: ys) (editDistance xs (y :: ys) :: distanceRow xs ys) :=
    congrArg (extendRow x (y :: ys)) (distanceRow_cons xs y ys)
  rw [editDistance, hrow,
    extendRow_cons (distanceRow_ne_nil xs ys) (distanceRow_ne_nil (x :: xs) ys)]
  rfl

/-! ## Enough edits -/

/-- As many edits are enough as the distance says. -/
theorem edits_editDistance (xs ys : List Char) : Edits (editDistance xs ys) xs ys := by
  induction xs generalizing ys with
  | nil =>
    rw [editDistance_nil]
    induction ys with
    | nil => exact .none []
    | cons y ys ih => exact .step (.insert y []) (ih.behind y)
  | cons x xs ihx =>
    induction ys with
    | nil =>
      have hrest := ihx []
      rw [editDistance_nil_right] at hrest ⊢
      exact .step (.delete x xs) hrest
    | cons y ys ihy =>
      rw [editDistance_cons_cons]
      split_ifs with hxy
      · rw [hxy]
        exact (ihx ys).behind y
      · -- the least of the three distances tells which edit comes first
        rw [Nat.add_comm]
        rcases min_choice (editDistance xs ys)
          (min (editDistance xs (y :: ys)) (editDistance (x :: xs) ys)) with hmin | hmin
        · rw [hmin]
          exact .step (.substitute x y xs) ((ihx ys).behind y)
        · rw [hmin]
          rcases min_choice (editDistance xs (y :: ys)) (editDistance (x :: xs) ys) with hmin | hmin
          · rw [hmin]
            exact .step (.delete x xs) (ihx (y :: ys))
          · rw [hmin]
            exact .step (.insert y (x :: xs)) (ihy.behind y)

/-! ## No fewer edits -/

/-- Two distances differ by one at most. -/
def Near (m n : Nat) : Prop :=
  m ≤ n + 1 ∧ n ≤ m + 1

/-- If two distances are near the one of shorter texts, the one of the longer texts is near
    them. -/
theorem near_cons_cons (hleft : Near (editDistance (x :: xs) ys) (editDistance xs ys))
    (hright : Near (editDistance xs (y :: ys)) (editDistance xs ys)) :
    Near (editDistance (x :: xs) (y :: ys)) (editDistance xs (y :: ys)) ∧
      Near (editDistance (x :: xs) (y :: ys)) (editDistance (x :: xs) ys) := by
  rw [editDistance_cons_cons]
  unfold Near at *
  split_ifs
  · omega
  · omega

theorem near_cons_left_of_right
    (h : ∀ y ys, Near (editDistance xs (y :: ys)) (editDistance xs ys)) (x : Char)
    (ys : List Char) : Near (editDistance (x :: xs) ys) (editDistance xs ys) := by
  induction ys with
  | nil =>
    rw [editDistance_nil_right, editDistance_nil_right, List.length_cons]
    exact ⟨Nat.le_refl _, by omega⟩
  | cons y ys ih => exact (near_cons_cons ih (h y ys)).1

/-- One character more in the second text changes a distance by one at most. -/
theorem near_cons_right (xs : List Char) (y : Char) (ys : List Char) :
    Near (editDistance xs (y :: ys)) (editDistance xs ys) := by
  induction xs generalizing y ys with
  | nil =>
    rw [editDistance_nil, editDistance_nil, List.length_cons]
    exact ⟨Nat.le_refl _, by omega⟩
  | cons x xs ih => exact (near_cons_cons (near_cons_left_of_right ih x ys) (ih y ys)).2

/-- One character more in the first text changes a distance by one at most. -/
theorem near_cons_left (x : Char) (xs ys : List Char) :
    Near (editDistance (x :: xs) ys) (editDistance xs ys) :=
  near_cons_left_of_right (near_cons_right xs) x ys

/-- **One edit brings a text nearer to another by one at most.** -/
theorem Edit.editDistance_le (h : Edit a b) (ys : List Char) :
    editDistance a ys ≤ editDistance b ys + 1 := by
  induction h generalizing ys with
  | insert c a => exact (near_cons_left c a ys).2
  | delete c a => exact (near_cons_left c a ys).1
  | substitute c d a =>
    induction ys with
    | nil => simp [editDistance_nil_right]
    | cons y ys ih =>
      have hshort := near_cons_left d a ys
      have hlong := near_cons_right a y ys
      rw [editDistance_cons_cons, editDistance_cons_cons]
      unfold Near at *
      split_ifs
      all_goals omega
  | behind c _ ih =>
    induction ys with
    | nil =>
      have hlength := ih []
      simp only [editDistance_nil_right, List.length_cons] at hlength ⊢
      omega
    | cons y ys ihy =>
      have hshort := ih ys
      have hlong := ih (y :: ys)
      rw [editDistance_cons_cons, editDistance_cons_cons]
      split_ifs
      all_goals omega

/-- Fewer edits than the distance are never enough. -/
theorem Edits.editDistance_le (h : Edits n a b) : editDistance a b ≤ n := by
  induction h with
  | none a =>
    induction a with
    | nil => exact Nat.le_refl 0
    | cons c a ih => rwa [editDistance_cons_cons, if_pos rfl]
  | step hedit _ ih => exact Nat.le_trans (hedit.editDistance_le _) (Nat.succ_le_succ ih)

/-- **The edit distance of two texts is the least number of insertions, deletions and
    replacements of one character that lead from the one to the other.** -/
theorem editDistance_isLeast (a b : List Char) : IsLeast {n | Edits n a b} (editDistance a b) :=
  ⟨edits_editDistance a b, fun _ h => h.editDistance_le⟩

end TaskQuery.Text
