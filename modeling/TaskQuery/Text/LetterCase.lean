/-
  TaskQuery — lower-case forms.

  The lower-case form of a text replaces each character by its lower-case form:
  itself, one other character, or (for the dotted capital I alone) two.  The
  one rule that looks at the context is the capital sigma, which has its own
  form at the end of a word: where the nearest character before it that is not
  case-ignorable is cased, and the nearest such character after it is not.

  * `lowerChar c` is the form of a character without context;
  * `lowerFrom before text` is the form of `text` after the characters
    `before`, the latest first, and `lowercase` the form of a whole text;
  * `length_le_length_lowerFrom`: no character disappears.
-/
import TaskQuery.Text.LetterCaseTable

namespace TaskQuery.Text

/-! ## Characters -/

/-- Membership of a character in a run. -/
def LowerRun.covers (run : LowerRun) (c : Char) : Bool :=
  run.first ≤ c.toNat && c.toNat ≤ run.last && (c.toNat - run.first) % run.step == 0

/-- The lower-case form of a character of the run. -/
def LowerRun.lower (run : LowerRun) (c : Char) : Char :=
  Char.ofNat ((c.toNat : Int) + run.shift).toNat

/-- The lower-case form of a character without regard to its context. -/
def lowerChar (c : Char) : List Char :=
  if c = '\u0130' then ['i', '\u0307']
  else match lowerRuns.find? (·.covers c) with
    | some run => [run.lower c]
    | none => [c]

/-- The property Cased of a character. -/
def isCased (c : Char) : Bool :=
  casedRanges.contains c

/-- The property Case_Ignorable of a character. -/
def isCaseIgnorable (c : Char) : Bool :=
  caseIgnorableRanges.contains c

/-- Whether the first character that is not case-ignorable is there and cased. -/
def meetsCased (text : List Char) : Bool :=
  match text.dropWhile isCaseIgnorable with
  | c :: _ => isCased c
  | [] => false

/-! ## Texts -/

/-- The lower-case form of a text that follows the characters `before`, the
    latest of them first. -/
def lowerFrom (before : List Char) : List Char → List Char
  | [] => []
  | c :: rest =>
    (if c = 'Σ' then [if meetsCased before && !meetsCased rest then 'ς' else 'σ']
      else lowerChar c) ++ lowerFrom (c :: before) rest

/-- The lower-case form of a text. -/
def lowercase (text : String) : String :=
  String.ofList (lowerFrom [] text.toList)

theorem lowerChar_ne_nil (c : Char) : lowerChar c ≠ [] := by
  unfold lowerChar
  split
  · simp
  · split <;> simp

/-- No character disappears. -/
theorem length_le_length_lowerFrom (before text : List Char) :
    text.length ≤ (lowerFrom before text).length := by
  induction text generalizing before with
  | nil => simp [lowerFrom]
  | cons c rest ih =>
    have hc := List.length_pos_iff.2 (lowerChar_ne_nil c)
    have hr := ih (c :: before)
    simp only [lowerFrom, List.length_append, List.length_cons]
    split
    · simp only [List.length_cons, List.length_nil]; omega
    · omega

end TaskQuery.Text
