/-
  TaskQuery — quoted text.

  A text is shown between double quotes with its quotes and backslashes
  escaped, four control characters written by their letters, and every
  character without a form of its own (hidden characters, and characters that
  join the one before them) written by its code point in hexadecimal.

  * `escapeChar c` is how one character is written, and `quote` how a text is;
  * `quote_eq_iff`: a text is itself between quotes exactly if all its characters
    are shown as they are.
-/
import TaskQuery.Text.PrintableTable

namespace TaskQuery.Text

/-- Whether a character has no form of its own. -/
def isFormless (c : Char) : Bool :=
  graphemeExtendRanges.contains c || hiddenRanges.contains c

/-- A character by its code point, in the fewest hexadecimal digits. -/
def codeEscape (c : Char) : List Char :=
  ['\\', 'u', '\x7b'] ++ Nat.toDigits 16 c.toNat ++ ['\x7d']

/-- A character as it is written between double quotes. -/
def escapeChar (c : Char) : List Char :=
  if c = '\x00' then ['\\', '0']
  else if c = '\t' then ['\\', 't']
  else if c = '\r' then ['\\', 'r']
  else if c = '\n' then ['\\', 'n']
  else if c = '\\' ∨ c = '"' then ['\\', c]
  else if isFormless c then codeEscape c
  else [c]

/-- The characters of a text as they are written between double quotes. -/
def escape (text : List Char) : List Char :=
  text.flatMap escapeChar

/-- A text between double quotes. -/
def quote (text : String) : String :=
  String.ofList ('"' :: escape text.toList ++ ['"'])

/-- A character is shown as it is, or longer. -/
theorem escapeChar_eq_or (c : Char) : escapeChar c = [c] ∨ 1 < (escapeChar c).length := by
  unfold escapeChar
  split
  · exact Or.inr (by decide)
  split
  · exact Or.inr (by decide)
  split
  · exact Or.inr (by decide)
  split
  · exact Or.inr (by decide)
  split
  · exact Or.inr (Nat.lt_succ_self 1)
  split
  · exact Or.inr (by simp [codeEscape])
  · exact Or.inl rfl

theorem length_le_escape (text : List Char) : text.length ≤ (escape text).length := by
  induction text with
  | nil => exact Nat.le_refl 0
  | cons c rest ih =>
    have hc : 0 < (escapeChar c).length := by
      rcases escapeChar_eq_or c with h | h
      · rw [h]
        exact Nat.one_pos
      · omega
    rw [escape, List.flatMap_cons, List.length_append, ← escape, List.length_cons]
    omega

theorem escape_eq_iff {text : List Char} : escape text = text ↔ ∀ c ∈ text, escapeChar c = [c] := by
  induction text with
  | nil => simp [escape]
  | cons c rest ih =>
    rw [List.forall_mem_cons, ← ih, escape, List.flatMap_cons, ← escape]
    constructor
    · intro h
      have hlength := congrArg List.length h
      have hrest := length_le_escape rest
      rw [List.length_append, List.length_cons] at hlength
      -- a longer form of `c` would make the whole longer
      rcases escapeChar_eq_or c with hc | hc
      · rw [hc] at h
        exact ⟨hc, List.tail_eq_of_cons_eq h⟩
      · omega
    · rintro ⟨hc, hrest⟩
      rw [hc, hrest]
      rfl

/-- A text is itself between quotes exactly if all its characters are shown as they
    are. -/
theorem quote_eq_iff {text : String} :
    quote text = "\"" ++ text ++ "\"" ↔ ∀ c ∈ text.toList, escapeChar c = [c] := by
  rw [← escape_eq_iff, ← String.toList_inj]
  simp [quote]

end TaskQuery.Text
