/-
  TaskQuery — colours of the terminal, and lines.

  A styled text stands between two escape sequences: one that turns the style on
  and one that turns it off again.

  * `Style` is a colour or a weight, `Style.apply` styles a text;
  * `paint colors styles text` applies styles, the first one innermost, where
    colours are on;
  * `unlines lines` is the text of some lines.
-/

namespace TaskQuery

/-- A colour or a weight of text. -/
inductive Style where
  /-- Red. -/
  | red
  /-- Green. -/
  | green
  /-- Yellow. -/
  | yellow
  /-- Cyan. -/
  | cyan
  /-- Heavy. -/
  | bold
  /-- Faint. -/
  | dim

/-- The codes that turn a style on and off. -/
def Style.codes : Style → String × String
  | red => ("31", "39")
  | green => ("32", "39")
  | yellow => ("33", "39")
  | cyan => ("36", "39")
  | bold => ("1", "0")
  | dim => ("2", "0")

/-- The escape sequence of a code. -/
def escapeSequence (code : String) : String :=
  "\x1b[" ++ code ++ "m"

/-- A text in a style. -/
def Style.apply (style : Style) (text : String) : String :=
  escapeSequence style.codes.1 ++ text ++ escapeSequence style.codes.2

/-- A text in styles, the first one innermost, where colours are on. -/
def paint (colors : Bool) (styles : List Style) (text : String) : String :=
  if colors then styles.foldl (fun t style => style.apply t) text else text

/-- Lines as text, each with its end. -/
def unlines (lines : List String) : String :=
  String.join (lines.map (· ++ "\n"))

end TaskQuery
