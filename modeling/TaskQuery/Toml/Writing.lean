/-
  TaskQuery — writing TOML strings and lines.

  A string is written in the plainest form that can hold it without an escape,
  and with escapes if there is none.

  * `Toml.StringForm` are the forms, and `Toml.StringForm.holds` says which
    characters a form can hold as they are;
  * `Toml.quote` writes a string, and `Toml.assignmentLine` a key with a value.
-/
import TaskQuery.Toml.Basic

namespace TaskQuery.Toml

/-- The forms of a string. -/
inductive StringForm where
  /-- On one line, between double quotes. -/
  | basic
  /-- On one line, between single quotes, without escapes. -/
  | literal
  /-- Over several lines, between tripled double quotes. -/
  | longBasic
  /-- Over several lines, between tripled single quotes, without escapes. -/
  | longLiteral
  deriving DecidableEq

/-- The quotes of a form. -/
def StringForm.quotes : StringForm → String
  | basic => "\""
  | literal => "'"
  | longBasic => "\"\"\""
  | longLiteral => "'''"

/-- Whether a form extends over several lines. -/
def StringForm.isLong : StringForm → Bool
  | basic | literal => false
  | longBasic | longLiteral => true

/-- The length of the longest run of a character. -/
def longestRun (c : Char) (chars : List Char) : Nat :=
  (chars.foldl (fun (longest, run) d =>
    let run := if d = c then run + 1 else 0
    (max longest run, run)) (0, 0)).1

/-- Whether a character is a control character other than a tab and a line feed. -/
def isControl (c : Char) : Bool :=
  (c.toNat < 0x20 && c ≠ '\t' && c ≠ '\n') || c = '\x7f'

/-- Whether a form can hold some characters as they are.  A form on one line has
    no place for its quote or a line feed, a form over several lines only for two
    of its quotes in a row.  A tab can stand in all of them. -/
def StringForm.holds (form : StringForm) (chars : List Char) : Bool :=
  let quote := match form with
    | basic | longBasic => '"'
    | literal | longLiteral => '\''
  !chars.any isControl
    && (quote = '\'' || !chars.contains '\\')
    && (form.isLong || !chars.contains '\n')
    && longestRun quote chars ≤ (if form.isLong then 2 else 0)

/-- The form in which a string is written. -/
def stringForm (chars : List Char) : StringForm :=
  match [StringForm.basic, .literal, .longBasic, .longLiteral].find? (·.holds chars) with
  | some form => form
  | none => if chars.contains '\n' then .longBasic else .basic

/-- The four digits of a code below a thousand. -/
def hexDigits (code : Nat) : List Char :=
  let digits := (Nat.toDigits 16 code).map Char.toUpper
  List.replicate (4 - digits.length) '0' ++ digits

/-- The characters between double quotes, after some quotes in a row.  Over several
    lines, line feeds and two quotes in a row stand as they are. -/
def escapeBasic (isLong : Bool) : (run : Nat) → List Char → List Char
  | _, [] => []
  | run, c :: rest =>
    if c = '"' then
      if isLong ∧ run < 2 then c :: escapeBasic isLong (run + 1) rest
      else '\\' :: c :: escapeBasic isLong 0 rest
    else
      let written :=
        if c = '\x08' then ['\\', 'b']
        else if c = '\t' then ['\\', 't']
        else if c = '\n' then (if isLong then [c] else ['\\', 'n'])
        else if c = '\x0c' then ['\\', 'f']
        else if c = '\r' then ['\\', 'r']
        else if c = '\\' then ['\\', '\\']
        else if c.toNat < 0x20 ∨ c = '\x7f' then '\\' :: 'u' :: hexDigits c.toNat
        else [c]
      written ++ escapeBasic isLong 0 rest

/-- The written form of a string.  Over several lines it starts on a line of its
    own. -/
def quote (value : String) : String :=
  let chars := value.toList
  let form := stringForm chars
  let body := match form with
    | .basic => escapeBasic false 0 chars
    | .longBasic => escapeBasic true 0 chars
    | .literal | .longLiteral => chars
  let start := if form.isLong ∧ chars.contains '\n' then "\n" else ""
  form.quotes ++ start ++ String.ofList body ++ form.quotes

/-- The line of a bare key and a written value. -/
def assignmentLine (key written : String) : String :=
  key ++ " = " ++ written ++ "\n"

end TaskQuery.Toml
