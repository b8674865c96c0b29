/-
  TaskQuery — blank characters, and trimming of text.

  A character is blank if it has the Unicode property White_Space: twenty-five
  code points in ten ranges.  Blanks separate the tokens of a query, and are
  what trimming removes.

  * `isBlank c` is the property;
  * `trimStart`, `trimEnd` and `trim` drop the blanks at the start, at the end
    and at both ends of a list of characters;
  * `isBlank_of_isDigit`: digits are not blank;
  * `exists_eq_trim`: trimming removes blanks only, and `isBlank_getLast_trim` all of
    them at the end; `trim_eq_nil_iff`: nothing is left of blanks alone.
-/

namespace TaskQuery.Text

/-! ## Sets of code points -/

/-- A set of code points: the first and the last code point of each of its
    ranges, in increasing order. -/
abbrev CodeRanges := List (Nat × Nat)

/-- Membership of a character in a set of code points. -/
def CodeRanges.contains (ranges : CodeRanges) (c : Char) : Bool :=
  ranges.any fun (first, last) => first ≤ c.toNat && c.toNat ≤ last

/-! ## Blanks -/

/-- The code points with the property White_Space. -/
def blankRanges : CodeRanges :=
  [(0x09, 0x0D), (0x20, 0x20), (0x85, 0x85), (0xA0, 0xA0), (0x1680, 0x1680),
   (0x2000, 0x200A), (0x2028, 0x2029), (0x202F, 0x202F), (0x205F, 0x205F),
   (0x3000, 0x3000)]

/-- The property White_Space of a character. -/
def isBlank (c : Char) : Bool :=
  blankRanges.contains c

/-- Digits are not blank. -/
theorem isBlank_of_isDigit {c : Char} (h : c.isDigit) : isBlank c = false := by
  have hrange : 48 ≤ c.toNat ∧ c.toNat ≤ 57 := Char.isDigit_iff_toNat.1 h
  simp [isBlank, CodeRanges.contains, blankRanges]
  omega

/-! ## Trimming -/

/-- The text without the blanks at its start. -/
def trimStart (text : List Char) : List Char :=
  text.dropWhile isBlank

/-- The text without the blanks at its end. -/
def trimEnd (text : List Char) : List Char :=
  (text.reverse.dropWhile isBlank).reverse

/-- The text without the blanks at either end. -/
def trim (text : List Char) : List Char :=
  trimEnd (trimStart text)

theorem exists_eq_trimStart (text : List Char) :
    ∃ leading, (∀ c ∈ leading, isBlank c) ∧ text = leading ++ trimStart text :=
  ⟨text.takeWhile isBlank, List.all_eq_true.1 List.all_takeWhile,
    List.takeWhile_append_dropWhile.symm⟩

theorem exists_eq_trimEnd (text : List Char) :
    ∃ trailing, (∀ c ∈ trailing, isBlank c) ∧ text = trimEnd text ++ trailing := by
  obtain ⟨leading, hblank, htext⟩ := exists_eq_trimStart text.reverse
  refine ⟨leading.reverse, fun c hc => hblank c (List.mem_reverse.1 hc), ?_⟩
  rw [← List.reverse_inj, htext, List.reverse_append, List.reverse_reverse, trimEnd,
    List.reverse_reverse]
  rfl

/-- Trimming removes blanks only. -/
theorem exists_eq_trim (text : List Char) :
    ∃ leading trailing, (∀ c ∈ leading, isBlank c) ∧ (∀ c ∈ trailing, isBlank c) ∧
      text = leading ++ (trim text ++ trailing) := by
  obtain ⟨leading, hleading, hstart⟩ := exists_eq_trimStart text
  obtain ⟨trailing, htrailing, hend⟩ := exists_eq_trimEnd (trimStart text)
  exact ⟨leading, trailing, hleading, htrailing, by rw [trim, ← hend, ← hstart]⟩

/-- Nothing is left of blanks alone. -/
theorem trim_eq_nil_iff {text : List Char} : trim text = [] ↔ ∀ c ∈ text, isBlank c := by
  constructor
  · intro h c hc
    obtain ⟨leading, trailing, hleading, htrailing, htext⟩ := exists_eq_trim text
    rw [htext, h, List.nil_append] at hc
    exact (List.mem_append.1 hc).elim (hleading c) (htrailing c)
  · intro h
    rw [trim, trimStart, ← List.append_nil text, List.dropWhile_append_of_pos h]
    rfl

/-- No blank is left at the end. -/
theorem isBlank_getLast_trim (text : List Char) :
    ∀ c ∈ (trim text).getLast?, isBlank c = false := by
  intro c hc
  rw [trim, trimEnd, List.getLast?_reverse] at hc
  have hhead := List.head?_dropWhile_not isBlank (trimStart text).reverse
  rw [Option.mem_def.1 hc] at hhead
  simpa using hhead

end TaskQuery.Text
