/-
  TaskQuery — lists: what stands behind one, its parts, and what is read from each item.

  * `takeWhile_append_of_stop`: the first word of a text is that of its first part, if
    another kind of characters begins behind it; `takeWhile_append_stop`: so a text of one
    kind of characters ends where another kind begins;
  * `append_inj_of_stop`: such texts are told apart, whatever stands behind them;
  * `intercalate_cons` and `intercalate_append_cons`: a text that is put together from parts,
    with one of them apart;
  * `mapM_eq_some_iff`: values are read from a list if one is read from every item; so
    `mapM_congr` and `mapM_eq_none` look at the items alone.
-/
import Mathlib.Data.List.TakeWhile

namespace TaskQuery

namespace Text

variable {α : Type} {p : α → Bool} {a b rest more : List α}

/-! ## Where a text ends -/

/-- The first word of a text is that of its first part, if another kind of characters
    begins behind it. -/
theorem takeWhile_append_of_stop (a : List α) (hrest : ∀ c ∈ rest.head?, p c = false) :
    (a ++ rest).takeWhile p = a.takeWhile p ∧ (a ++ rest).dropWhile p = a.dropWhile p ++ rest := by
  induction a with
  | nil =>
    cases rest with
    | nil => exact ⟨rfl, rfl⟩
    | cons c rest => simp [hrest c rfl]
  | cons c a ih =>
    rw [List.cons_append, List.takeWhile_cons, List.takeWhile_cons, List.dropWhile_cons,
      List.dropWhile_cons, ih.1, ih.2]
    split_ifs
    · exact ⟨rfl, rfl⟩
    · exact ⟨rfl, rfl⟩

/-- A text of one kind of characters ends where another kind begins. -/
theorem takeWhile_append_stop (ha : ∀ c ∈ a, p c) (hrest : ∀ c ∈ rest.head?, p c = false) :
    (a ++ rest).takeWhile p = a ∧ (a ++ rest).dropWhile p = rest := by
  obtain ⟨htake, hdrop⟩ := takeWhile_append_of_stop a hrest
  rw [htake, hdrop, List.takeWhile_eq_self_iff.2 ha, List.dropWhile_eq_nil_iff.2 ha]
  exact ⟨rfl, rfl⟩

/-- Two texts of one kind of characters are told apart from what stands behind them. -/
theorem append_inj_of_stop (ha : ∀ c ∈ a, p c) (hb : ∀ c ∈ b, p c)
    (hrest : ∀ c ∈ rest.head?, p c = false) (hmore : ∀ c ∈ more.head?, p c = false)
    (h : a ++ rest = b ++ more) : a = b ∧ rest = more := by
  obtain ⟨htake, hdrop⟩ := takeWhile_append_stop ha hrest
  obtain ⟨htake', hdrop'⟩ := takeWhile_append_stop hb hmore
  rw [h] at htake hdrop
  exact ⟨htake.symm.trans htake', hdrop.symm.trans hdrop'⟩

/-! ## Parts of a text -/

/-- A text that is put together from parts is its first part, and behind it every other
    part with a separator in front. -/
theorem intercalate_cons (separator part : List α) (parts : List (List α)) :
    separator.intercalate (part :: parts) = part ++ parts.flatMap (separator ++ ·) := by
  induction parts generalizing part with
  | nil => simp
  | cons second parts ih =>
    rw [List.intercalate_cons_cons, ih, List.flatMap_cons, List.append_assoc, List.append_assoc]

/-- A text that is put together from parts is one of them, with every part before it and a
    separator in front, and every part after it and a separator behind. -/
theorem intercalate_append_cons (separator part : List α) (front back : List (List α)) :
    separator.intercalate (front ++ part :: back) =
      front.flatMap (· ++ separator) ++ (part ++ back.flatMap (separator ++ ·)) := by
  induction front with
  | nil => exact intercalate_cons separator part back
  | cons first front ih =>
    have hcons : separator.intercalate (first :: (front ++ part :: back)) =
        first ++ (separator ++ separator.intercalate (front ++ part :: back)) := by
      cases front <;> simp [List.intercalate_cons_cons]
    rw [List.cons_append, hcons, ih, List.flatMap_cons]
    simp only [List.append_assoc]

end Text

/-! ## Values read from each item -/

section
variable {α β : Type} {f g : α → Option β} {l : List α} {values : List β} {x : α}

/-- Values are read from a list if one is read from every item. -/
theorem mapM_eq_some_iff : l.mapM f = some values ↔ l.map f = values.map some := by
  induction l generalizing values with
  | nil => cases values <;> simp
  | cons x l ih =>
    rw [List.mapM_cons, List.map_cons]
    cases values <;> simp [Option.bind_eq_some_iff, ih]

theorem mapM_congr (h : ∀ x ∈ l, f x = g x) : l.mapM f = l.mapM g := by
  refine Option.ext fun values => ?_
  rw [mapM_eq_some_iff, mapM_eq_some_iff, List.map_congr_left h]

theorem mapM_eq_none (hx : x ∈ l) (h : f x = none) : l.mapM f = none := by
  refine Option.eq_none_iff_forall_ne_some.2 fun values hvalues => ?_
  have hmem := List.mem_map_of_mem (f := f) hx
  rw [mapM_eq_some_iff.1 hvalues, h] at hmem
  simp at hmem

theorem length_of_mapM (h : l.mapM f = some values) : values.length = l.length := by
  have hlength := congrArg List.length (mapM_eq_some_iff.1 h)
  rw [List.length_map, List.length_map] at hlength
  exact hlength.symm

/-- What a function gives is read back from it. -/
theorem mapM_map_of_inverse {write : β → α} (h : ∀ value, f (write value) = some value)
    (values : List β) : (values.map write).mapM f = some values := by
  rw [mapM_eq_some_iff, List.map_map]
  exact List.map_congr_left fun value _ => h value

end

end TaskQuery
