/-
  TaskQuery — the strings of TOML.

  There are basic strings, in which a backslash escapes, and literal strings, in
  which it does not; either may extend over several lines between tripled
  quotes.  The first line break after tripled quotes does not count, and up to two
  quotes may stand anywhere in such a string, also before its end.

  * `Toml.QuoteState` is the state inside a string, and `Toml.readQuoted` reads
    the rest of one;
  * `Toml.readString` reads a string of any kind.
-/
import TaskQuery.Json.Reading
import TaskQuery.Toml.Basic

namespace TaskQuery.Toml

/-- Whether a character may stand in a string as it is. -/
def isPlainChar (c : Char) : Bool :=
  c = '\t' || (0x20 ≤ c.toNat && c ≠ '\x7f')

/-- The kind of a string. -/
structure QuoteKind where
  /-- Whether a backslash is a character like any other. -/
  isLiteral : Bool
  /-- Whether the string may extend over several lines. -/
  isLong : Bool

/-- The quote of a kind of string. -/
def QuoteKind.quote (kind : QuoteKind) : Char :=
  if kind.isLiteral then '\'' else '"'

/-- The state inside a string. -/
inductive QuoteState where
  /-- Between characters. -/
  | plain
  /-- After some quotes of a long string, at most four. -/
  | quotes (count : Nat)
  /-- After a carriage return. -/
  | lineBreak
  /-- After a backslash. -/
  | escape
  /-- Within an escape: how many hexadecimal digits are left, and the value of
      those read. -/
  | hex (left value : Nat)
  /-- After a backslash and blanks: before a line break. -/
  | joining
  /-- After a backslash, blanks and a carriage return. -/
  | joiningBreak
  /-- After a backslash and a line break: before anything but blanks and line
      breaks. -/
  | joined

/-- The character of a one-letter escape. -/
def escapedChar? (c : Char) : Option Char :=
  if c = '"' ∨ c = '\\' then some c
  else if c = 'b' then some '\x08'
  else if c = 't' then some '\t'
  else if c = 'n' then some '\n'
  else if c = 'f' then some '\x0c'
  else if c = 'r' then some '\r'
  else none

/-- The state after a character between characters, other than the quote, with
    the characters that are complete. -/
def stepPlain (kind : QuoteKind) (c : Char) : Option (QuoteState × List Char) :=
  if c = '\\' ∧ !kind.isLiteral then some (.escape, [])
  else if kind.isLong ∧ c = '\n' then some (.plain, [c])
  else if kind.isLong ∧ c = '\r' then some (.lineBreak, [])
  else if isPlainChar c then some (.plain, [c])
  else none

/-- The state after a character that follows a backslash. -/
def stepEscape (kind : QuoteKind) (c : Char) : Option (QuoteState × List Char) :=
  if c = 'u' then some (.hex 4 0, [])
  else if c = 'U' then some (.hex 8 0, [])
  else if kind.isLong ∧ (c = ' ' ∨ c = '\t') then some (.joining, [])
  else if kind.isLong ∧ c = '\n' then some (.joined, [])
  else if kind.isLong ∧ c = '\r' then some (.joiningBreak, [])
  else (escapedChar? c).map fun d => (.plain, [d])

/-- Reads the rest of a string in a state, after the characters `before`, the
    latest first. -/
def readQuoted (kind : QuoteKind) (state : QuoteState) (before : List Char) :
    List Char → Option (String × List Char)
  | [] =>
    match state with
    | .quotes count => if 3 ≤ count then finish (count - 3) before [] else none
    | _ => none
  | c :: rest =>
    let go : Option (QuoteState × List Char) → Option (String × List Char)
      | some (next, chars) => readQuoted kind next (chars ++ before) rest
      | none => none
    match state with
    | .plain =>
      if c = kind.quote then
        if kind.isLong then readQuoted kind (.quotes 1) before rest else finish 0 before rest
      else go (stepPlain kind c)
    | .quotes count =>
      if c = kind.quote then
        if count = 4 then finish 2 before rest
        else readQuoted kind (.quotes (count + 1)) before rest
      else if 3 ≤ count then finish (count - 3) before (c :: rest)
      else go ((stepPlain kind c).map fun (next, chars) =>
        (next, chars ++ List.replicate count kind.quote))
    | .lineBreak => if c = '\n' then go (some (.plain, ['\n'])) else none
    | .escape => go (stepEscape kind c)
    | .hex left value =>
      match Json.hexValue? c with
      | none => none
      | some digit =>
        let value := value * 16 + digit
        if 1 < left then go (some (.hex (left - 1) value, []))
        else if value.isValidChar then go (some (.plain, [Char.ofNat value]))
        else none
    | .joining =>
      if c = ' ' ∨ c = '\t' then go (some (.joining, []))
      else if c = '\n' then go (some (.joined, []))
      else if c = '\r' then go (some (.joiningBreak, []))
      else none
    | .joiningBreak => if c = '\n' then go (some (.joined, [])) else none
    | .joined =>
      if c = ' ' ∨ c = '\t' ∨ c = '\n' then go (some (.joined, []))
      else if c = '\r' then go (some (.joiningBreak, []))
      else if c = kind.quote then readQuoted kind (.quotes 1) before rest
      else go (stepPlain kind c)
where
  /-- The string with some quotes at its end, and the text after it. -/
  finish (quotes : Nat) (before rest : List Char) : Option (String × List Char) :=
    some (String.ofList (before.reverse ++ List.replicate quotes kind.quote), rest)

/-- The text after a line break, if it starts with one. -/
def dropLineBreak : List Char → List Char
  | '\n' :: rest => rest
  | '\r' :: '\n' :: rest => rest
  | chars => chars

/-- Reads a string on one line. -/
def readShortString : List Char → Option (String × List Char)
  | c :: rest =>
    if c = '"' ∨ c = '\'' then readQuoted ⟨c = '\'', false⟩ .plain [] rest else none
  | [] => none

/-- Reads a string of any kind. -/
def readString : List Char → Option (String × List Char)
  | a :: b :: c :: rest =>
    if (a = '"' ∨ a = '\'') ∧ b = a ∧ c = a then
      readQuoted ⟨a = '\'', true⟩ .plain [] (dropLineBreak rest)
    else readShortString (a :: b :: c :: rest)
  | chars => readShortString chars

end TaskQuery.Toml
