/-
  TaskQuery — what is left of a text without its escape sequences.

  An escape sequence starts with the escape character and an opening bracket, and goes on
  up to the first letter or other character between `@` and `~`.

  * `visible inside text`: the characters left of a text, where `inside` says whether it
    starts within a sequence; `withoutEscapes` is the text that they are;
  * `trimEnd_append_of_blank` and `trimEnd_append_of_not_blank`: where the blanks at the end
    of a text begin;
  * `Looks text plain`: without its sequences, `text` is `plain`, also with something behind
    it and also without the blanks at its end;
  * `looks_paint`: a painted text looks like itself if it does not end in a blank.
-/
import Mathlib.Data.List.TakeWhile
import TaskQuery.Display.Style
import TaskQuery.Text.Blank

namespace TaskQuery

open Text (isBlank trimEnd)

variable {text plain a b : List Char}

/-! ## Escape sequences -/

/-- The characters of a text that belong to no escape sequence; `inside` says whether the
    text starts within one. -/
def visible : (inside : Bool) → List Char → List Char
  | _, [] => []
  | true, c :: rest => visible (!('@' ≤ c && c ≤ '~')) rest
  | false, '\x1b' :: '[' :: rest => visible true rest
  | false, c :: rest => c :: visible false rest

/-- A text without its escape sequences. -/
def withoutEscapes (text : String) : String :=
  String.ofList (visible false text.toList)

theorem visible_cons {c : Char} (hc : c ≠ '\x1b') (rest : List Char) :
    visible false (c :: rest) = c :: visible false rest := by
  rw [visible]
  rintro rest' rfl
  simp at hc

theorem visible_append (h : '\x1b' ∉ text) (rest : List Char) :
    visible false (text ++ rest) = text ++ visible false rest := by
  induction text with
  | nil => rfl
  | cons c text ih =>
    obtain ⟨hc, htext⟩ := not_or.1 (mt List.mem_cons.2 h)
    rw [List.cons_append, visible_cons (Ne.symm hc), ih htext, List.cons_append]

/-- Nothing is left of the sequences around a styled text. -/
theorem visible_escapeSequence (style : Style) (rest : List Char) :
    visible false ((escapeSequence style.codes.1).toList ++ rest) = visible false rest ∧
      visible false ((escapeSequence style.codes.2).toList ++ rest) = visible false rest := by
  cases style <;> exact ⟨rfl, rfl⟩

/-! ## Blanks at the end -/

/-- A text of blanks alone. -/
def AllBlank (text : List Char) : Prop :=
  ∀ c ∈ text, isBlank c

instance (text : List Char) : Decidable (AllBlank text) :=
  List.decidableBAll _ text

theorem allBlank_append : AllBlank (a ++ b) ↔ AllBlank a ∧ AllBlank b :=
  List.forall_mem_append

theorem allBlank_replicate (n : Nat) : AllBlank (List.replicate n ' ') := by
  intro c hc
  rw [List.eq_of_mem_replicate hc]
  decide

theorem trimEnd_append_of_blank (h : AllBlank b) : trimEnd (a ++ b) = trimEnd a := by
  have hdrop : b.reverse.dropWhile isBlank = [] := by
    rw [List.dropWhile_eq_nil_iff]
    exact fun c hc => h c (List.mem_reverse.1 hc)
  rw [trimEnd, trimEnd, List.reverse_append, List.dropWhile_append, hdrop]
  rfl

theorem trimEnd_append_of_not_blank (h : ¬ AllBlank b) : trimEnd (a ++ b) = a ++ trimEnd b := by
  have hdrop : b.reverse.dropWhile isBlank ≠ [] := by
    rw [Ne, List.dropWhile_eq_nil_iff]
    exact fun hblank => h fun c hc => hblank c (List.mem_reverse.2 hc)
  rw [trimEnd, trimEnd, List.reverse_append, List.dropWhile_append, if_neg (by simpa using hdrop)]
  simp

/-- A text that ends in a character other than a blank. -/
def EndsSolid (text : List Char) : Prop :=
  ∃ front c, text = front ++ [c] ∧ isBlank c = false

theorem EndsSolid.append (h : EndsSolid b) (a : List Char) : EndsSolid (a ++ b) := by
  obtain ⟨front, c, rfl, hc⟩ := h
  exact ⟨a ++ front, c, (List.append_assoc _ _ _).symm, hc⟩

theorem EndsSolid.not_blank (h : EndsSolid text) : ¬ AllBlank text := by
  obtain ⟨front, c, rfl, hc⟩ := h
  intro hblank
  simp [hblank c (by simp)] at hc

theorem EndsSolid.trimEnd_eq (h : EndsSolid text) : trimEnd text = text := by
  obtain ⟨front, c, rfl, hc⟩ := h
  simp [trimEnd, hc]

/-! ## Texts that look alike -/

/-- Without its escape sequences, a text is a plain one, whatever stands behind it, and also
    without the blanks at its end. -/
structure Looks (text plain : List Char) : Prop where
  visible_eq : ∀ rest, visible false (text ++ rest) = plain ++ visible false rest
  trimmed_eq : ∀ rest, visible false (trimEnd text ++ rest) = trimEnd plain ++ visible false rest
  blank_iff : AllBlank text ↔ AllBlank plain

theorem looks_self (h : '\x1b' ∉ text) : Looks text text := by
  have htrim : '\x1b' ∉ trimEnd text := by
    obtain ⟨trailing, -, htext⟩ := Text.exists_eq_trimEnd text
    intro hmem
    rw [htext] at h
    exact h (List.mem_append_left _ hmem)
  exact ⟨visible_append h, visible_append htrim, Iff.rfl⟩

theorem looks_of_endsSolid (htext : EndsSolid text) (hplain : EndsSolid plain)
    (h : ∀ rest, visible false (text ++ rest) = plain ++ visible false rest) :
    Looks text plain := by
  refine ⟨h, fun rest => ?_, iff_of_false htext.not_blank hplain.not_blank⟩
  rw [htext.trimEnd_eq, hplain.trimEnd_eq, h]

theorem Looks.append {a' b' : List Char} (ha : Looks a a') (hb : Looks b b') :
    Looks (a ++ b) (a' ++ b') := by
  refine ⟨fun rest => ?_, fun rest => ?_, ?_⟩
  · rw [List.append_assoc, ha.visible_eq, hb.visible_eq, List.append_assoc]
  · by_cases hblank : AllBlank b
    · rw [trimEnd_append_of_blank hblank, trimEnd_append_of_blank (hb.blank_iff.1 hblank),
        ha.trimmed_eq]
    · rw [trimEnd_append_of_not_blank hblank,
        trimEnd_append_of_not_blank (mt hb.blank_iff.2 hblank), List.append_assoc, ha.visible_eq,
        hb.trimmed_eq, List.append_assoc]
  · rw [allBlank_append, allBlank_append, ha.blank_iff, hb.blank_iff]

/-- A painted text looks like itself if it does not end in a blank. -/
theorem looks_paint (colors : Bool) (styles : List Style) {text : String}
    (h : '\x1b' ∉ text.toList) (hsolid : EndsSolid text.toList) :
    Looks (paint colors styles text).toList text.toList := by
  cases colors with
  | false => exact looks_self h
  | true =>
    have hinner : EndsSolid text.toList ∧
        ∀ rest, visible false (text.toList ++ rest) = text.toList ++ visible false rest :=
      ⟨hsolid, visible_append h⟩
    have houter : ∀ painted : String, EndsSolid painted.toList ∧ (∀ rest,
        visible false (painted.toList ++ rest) = text.toList ++ visible false rest) →
        Looks (styles.foldl (fun t style => style.apply t) painted).toList text.toList := by
      induction styles with
      | nil => exact fun painted hpainted => looks_of_endsSolid hpainted.1 hsolid hpainted.2
      | cons style styles ih =>
        rintro painted ⟨-, hpainted⟩
        refine ih _ ⟨?_, fun rest => ?_⟩
        · simp only [Style.apply, String.toList_append]
          refine EndsSolid.append ⟨('\x1b' :: '[' :: style.codes.2.toList), 'm', ?_, by decide⟩ _
          simp [escapeSequence]
        · simp only [Style.apply, String.toList_append]
          rw [List.append_assoc, List.append_assoc, (visible_escapeSequence style _).1, hpainted,
            (visible_escapeSequence style _).2]
    exact houter text hinner

end TaskQuery
