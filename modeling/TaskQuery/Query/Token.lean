/-
  TaskQuery — the tokens of a query.

  A query is scanned character by character.  Blanks separate tokens;
  parentheses and doubled `&` or `|` are tokens of their own wherever they
  stand; a quote character begins a literal that lasts to the next such
  character, or to the end of the query.  Text pending before a quote becomes
  part of the literal, and empty literals make no token.

  * `Token` is a text with a mark whether it was quoted;
  * `Scan` is the state of the scanner: the tokens found so far, the text
    pending since the last of them, and the open quote, if any;
  * `Scan.step` takes one character, `Scan.finish` ends the query, and
    `tokenize` scans a whole query;
  * `Scan.run_append`: scanning goes on where it stopped.
-/
import TaskQuery.Text.Blank

namespace TaskQuery

/-- A token of a query. -/
structure Token where
  /-- The text, without the quotes of a literal. -/
  text : String
  /-- Whether the text was a quoted literal. -/
  quoted : Bool
  deriving DecidableEq

namespace Token

/-- The token of a text without quotes. -/
abbrev bare (text : String) : Token := ⟨text, false⟩

/-- The token of a quoted text. -/
abbrev literal (text : String) : Token := ⟨text, true⟩

/-- The tokens that structure a query and can never be values: unquoted
    parentheses and connectives. -/
def structural : List Token := [bare "(", bare ")", bare "&&", bare "||"]

end Token

/-! ## The scanner -/

/-- The state of the scanner. -/
structure Scan where
  /-- The tokens found so far, the latest first. -/
  tokens : List Token
  /-- The text since the last token, the latest character first. -/
  pending : List Char
  /-- The character that opened the literal being scanned. -/
  quote : Option Char

namespace Scan

/-- The state before the first character. -/
def start : Scan := ⟨[], [], none⟩

/-- Ends the pending text, which makes a token if it is not empty. -/
def flush (s : Scan) (quoted : Bool) : Scan :=
  { tokens := if s.pending = [] then s.tokens
      else ⟨String.ofList s.pending.reverse, quoted⟩ :: s.tokens
    pending := []
    quote := none }

/-- Ends the pending text and adds a token of its own. -/
def symbol (s : Scan) (text : List Char) : Scan :=
  let flushed := s.flush false
  { flushed with tokens := .bare (String.ofList text) :: flushed.tokens }

/-- Adds a character to the pending text. -/
def push (s : Scan) (c : Char) : Scan :=
  { s with pending := c :: s.pending }

/-- Takes one character outside quotes. -/
def stepBare (s : Scan) (c : Char) : Scan :=
  if c = '"' ∨ c = '\'' then { s with quote := some c }
  else if c = '(' ∨ c = ')' then s.symbol [c]
  else if (c = '&' ∨ c = '|') ∧ s.pending.head? = some c then
    { s with pending := s.pending.tail }.symbol [c, c]
  else if Text.isBlank c then s.flush false
  else s.push c

/-- Takes one character. -/
def step (s : Scan) (c : Char) : Scan :=
  match s.quote with
  | some opening => if c = opening then s.flush true else s.push c
  | none => s.stepBare c

/-- Takes a text. -/
def run (s : Scan) (text : List Char) : Scan :=
  text.foldl step s

/-- Ends the query: an open literal ends there too. -/
def finish (s : Scan) : List Token :=
  (s.flush s.quote.isSome).tokens.reverse

/-- Scanning goes on where it stopped. -/
theorem run_append (s : Scan) (a b : List Char) : s.run (a ++ b) = (s.run a).run b :=
  List.foldl_append

end Scan

/-- The tokens of a query. -/
def tokenize (query : String) : List Token :=
  (Scan.start.run query.toList).finish

end TaskQuery
