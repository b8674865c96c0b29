/-
  TaskQuery — a line that is edited at a prompt.

  Characters come from a terminal one by one.  Most are inserted at the cursor; some
  erase the character before it; those of an arrow key, or an escape and a letter,
  move it by a character or a word.  A line that was submitted is offered for editing
  again.

  * `Prompt` is a line with a cursor, `Prompt.type` the line after a character;
  * `Prompt.lines` are the lines that some characters submit.
-/
import TaskQuery.Text.Blank

namespace TaskQuery

/-- Whether a character submits a line. -/
def isSubmitKey (key : Char) : Bool :=
  key = '\r' || key = '\n'

/-- How much was read of a key that is more than one character. -/
inductive KeyStart where
  /-- Nothing. -/
  | nothing
  /-- An escape. -/
  | escape
  /-- An escape and a bracket. -/
  | bracket
  /-- An escape, a bracket and a character that is not the last one. -/
  | parameter
  deriving DecidableEq

/-- A line that is being edited. -/
structure Prompt where
  /-- The characters before the cursor, the nearest first. -/
  before : List Char
  /-- The characters after the cursor. -/
  after : List Char := []
  /-- How much was read of the key that is being pressed. -/
  keyStart : KeyStart := .nothing
  deriving DecidableEq

namespace Prompt

/-- The line that a text is, with the cursor at its end. -/
def ofText (text : List Char) : Prompt where
  before := text.reverse

/-- The text of a line. -/
def text (p : Prompt) : List Char :=
  p.before.reverse ++ p.after

/-! ## Moving the cursor -/

/-- The line with the cursor some characters further back. -/
def back (p : Prompt) (count : Nat) : Prompt where
  before := p.before.drop count
  after := (p.before.take count).reverse ++ p.after

/-- The line with the cursor some characters further on. -/
def forward (p : Prompt) (count : Nat) : Prompt where
  before := (p.after.take count).reverse ++ p.before
  after := p.after.drop count

/-- How far back the start of a word is. -/
def wordBefore (p : Prompt) : Nat :=
  let blanks := p.before.takeWhile Text.isBlank
  let others := p.before.dropWhile Text.isBlank
  blanks.length + (others.takeWhile (!Text.isBlank ·)).length

/-- How far on the start of the next word is. -/
def wordAfter (p : Prompt) : Nat :=
  let word := p.after.takeWhile (!Text.isBlank ·)
  let others := p.after.dropWhile (!Text.isBlank ·)
  word.length + (others.takeWhile Text.isBlank).length

/-! ## Typing -/

/-- The line after a character that is a key of its own. -/
def press (p : Prompt) (c : Char) : Prompt :=
  if c = '\x1b' then { p with keyStart := .escape }
  else if c = '\x7f' ∨ c = '\x08' then { p with before := p.before.tail }
  else if c.toNat < 0x20 then p
  else { p with before := c :: p.before }

/-- The line after the last character of a key that starts with an escape. -/
def pressAfterEscape (p : Prompt) (c : Char) : Prompt :=
  if c = 'b' then p.back p.wordBefore
  else if c = 'f' then p.forward p.wordAfter
  else { p with keyStart := .nothing }

/-- The line after the last character of a key that starts with an escape and a
    bracket. -/
def pressAfterBracket (p : Prompt) (c : Char) : Prompt :=
  if c = 'D' then p.back 1
  else if c = 'C' then p.forward 1
  else { p with keyStart := .nothing }

/-- The line after a character that does not submit it. -/
def type (p : Prompt) (c : Char) : Prompt :=
  match p.keyStart with
  | .nothing => p.press c
  | .escape => if c = '[' then { p with keyStart := .bracket } else p.pressAfterEscape c
  | .bracket =>
    if c ∈ ['A', 'B', 'C', 'D', 'F', 'H', 'Z'] then p.pressAfterBracket c
    else { p with keyStart := .parameter }
  | .parameter => { p with keyStart := .nothing }

/-- Whether a character submits the line. -/
def isSubmittedBy (p : Prompt) (c : Char) : Bool :=
  p.keyStart = .nothing && isSubmitKey c

/-- The lines that some characters submit, from a line on.  The next line starts with
    the one before.  An interrupt ends them. -/
def lines (p : Prompt) : List Char → List String
  | [] => []
  | c :: rest =>
    if c = '\x03' then []
    else if p.isSubmittedBy c then String.ofList p.text :: (ofText p.text).lines rest
    else (p.type c).lines rest

end Prompt

end TaskQuery
