/-
  TaskQuery — reading TOML documents.

  A document is lines: blank lines and comments, headers in brackets, and keys
  with values.  Arrays and inline tables nest less than eighty deep, and a dotted
  key has less than eighty parts.

  * `Toml.readKey` reads a dotted key, and `Toml.readValue` a value;
  * `Toml.Line` is what a line says, and `Toml.readLine` reads one;
  * `Toml.Draft` is a document up to some line, and `Toml.ofText?` the table that
    a text describes.
-/
import TaskQuery.Toml.Scalar
import TaskQuery.Toml.Strings

namespace TaskQuery.Toml

/-- A reader of one part of a text: what it read, and the text after it. -/
abbrev Reader (α : Type) := List Char → Option (α × List Char)

/-! ## Blanks and comments -/

/-- The text after any blanks. -/
def skipBlanks (chars : List Char) : List Char :=
  chars.dropWhile fun c => c = ' ' ∨ c = '\t'

/-- The text after a line break, which the text has to start with. -/
def breakLine? : List Char → Option (List Char)
  | '\n' :: rest => some rest
  | '\r' :: '\n' :: rest => some rest
  | _ => none

/-- The text after a comment, if it starts with one. -/
def skipComment : List Char → List Char
  | '#' :: rest => rest.dropWhile isPlainChar
  | chars => chars

/-- The text after the end of a line: blanks, a comment, and a line break unless
    the text ends. -/
def endLine? (chars : List Char) : Option (List Char) :=
  match skipComment (skipBlanks chars) with
  | [] => some []
  | rest => breakLine? rest

/-- The text after blanks, comments and line breaks, at most as many lines as the
    number says. -/
def skipLines? : Nat → List Char → Option (List Char)
  | 0, _ => none
  | bound + 1, chars =>
    match skipBlanks chars with
    | c :: rest =>
      if c = '#' ∨ c = '\n' ∨ c = '\r' then
        (breakLine? (skipComment (c :: rest))).bind (skipLines? bound)
      else some (c :: rest)
    | [] => some []

/-! ## Keys -/

/-- The greatest depth of arrays and inline tables, and the greatest number of
    parts of a key. -/
def maxDepth : Nat := 79

/-- Whether a character can be part of a bare key. -/
def isKeyChar (c : Char) : Bool :=
  c.isAlphanum || c = '-' || c = '_'

/-- Reads one part of a key: bare, or a string on one line. -/
def readKeyPart : Reader String
  | [] => none
  | c :: rest =>
    if c = '"' ∨ c = '\'' then readShortString (c :: rest)
    else
      let name := (c :: rest).takeWhile isKeyChar
      if name = [] then none
      else some (String.ofList name, (c :: rest).dropWhile isKeyChar)

/-- Reads the parts of a key with points between them and blanks around, at most
    as many as the number says. -/
def readKeyParts : Nat → Reader (List String)
  | 0, _ => none
  | bound + 1, chars => do
    let (part, rest) ← readKeyPart (skipBlanks chars)
    match skipBlanks rest with
    | '.' :: rest => (readKeyParts bound rest).map fun (parts, rest) => (part :: parts, rest)
    | rest => some ([part], rest)

/-- Reads a dotted key: the path to a table and the key in it. -/
def readKey : Reader (List String × String) := fun chars => do
  let (parts, rest) ← readKeyParts maxDepth chars
  some ((parts.dropLast, parts.getLastD ""), rest)

/-! ## Values -/

/-- Reads the items of an array up to the closing bracket; `first` before the
    first one.  The number bounds the items and the lines. -/
def readItems (item : Reader Toml) : (first : Bool) → Nat → Reader (List Toml)
  | _, 0, _ => none
  | first, bound + 1, chars => do
    let chars ← skipLines? (bound + 1) chars
    let next (chars : List Char) : Option (List Toml × List Char) := do
      let (value, rest) ← item chars
      let (values, rest) ← readItems item false bound rest
      some (value :: values, rest)
    match chars with
    | ']' :: rest => some ([], rest)
    | ',' :: rest =>
      if first then none
      else match ← skipLines? (bound + 1) rest with
        | ']' :: rest => some ([], rest)
        | rest => next rest
    | rest => if first then next rest else none

/-- Reads a dotted key, an equals sign and a value. -/
def readAssignment (value : Reader Toml) : Reader ((List String × String) × Toml) := fun chars => do
  let (key, rest) ← readKey chars
  match rest with
  | '=' :: rest =>
    let (value, rest) ← value (skipBlanks rest)
    some ((key, value), rest)
  | _ => none

/-- Reads the assignments of an inline table up to the closing brace; `first`
    before the first one.  The number bounds the assignments. -/
def readAssignments (value : Reader Toml) (first : Bool) :
    Nat → Reader (List ((List String × String) × Toml))
  | 0, _ => none
  | bound + 1, chars =>
    match first, skipBlanks chars with
    | _, '\x7d' :: rest => some ([], rest)
    | true, rest | false, ',' :: rest => do
      let (one, rest) ← readAssignment value rest
      let (others, rest) ← readAssignments value false bound rest
      some (one :: others, rest)
    | false, _ => none

/-- The inline table that assignments make one after the other. -/
def inlineTable? (assignments : List ((List String × String) × Toml)) : Option Toml :=
  assignments.foldlM (fun t ((path, key), value) => assign path key value t) (table .inline [])

/-- Reads a value with arrays and inline tables nested at most `depth` deep, each
    of fewer items and lines than `bound`. -/
def readNested (bound : Nat) : (depth : Nat) → Reader Toml
  | depth, chars =>
    match depth, chars with
    | depth + 1, '[' :: rest =>
      (readItems (readNested bound depth) true bound rest).map fun (items, rest) =>
        (array items, rest)
    | depth + 1, '\x7b' :: rest => do
      let (assignments, rest) ← readAssignments (readNested bound depth) true bound rest
      (inlineTable? assignments).map fun t => (t, rest)
    | _, c :: rest =>
      if c = '"' ∨ c = '\'' then
        (readString (c :: rest)).map fun (value, rest) => (text value, rest)
      else readWord (c :: rest)
    | _, [] => none

/-- Reads a value.  No value has more items or lines than its text has
    characters. -/
def readValue : Reader Toml := fun chars =>
  readNested (chars.length + 2) maxDepth chars

/-! ## Lines -/

/-- What a line says. -/
inductive Line where
  /-- Nothing. -/
  | blank
  /-- A header that opens a table. -/
  | tableHeader (path : List String) (key : String)
  /-- A header that opens one more table of an array. -/
  | itemHeader (path : List String) (key : String)
  /-- A key with its value. -/
  | assignment (path : List String) (key : String) (value : Toml)

/-- Reads a line up to its end. -/
def readLineBody (chars : List Char) : Option (Line × List Char) :=
  match skipBlanks chars with
  | '[' :: '[' :: rest => do
    let ((path, key), rest) ← readKey rest
    match rest with
    | ']' :: ']' :: rest => some (.itemHeader path key, rest)
    | _ => none
  | '[' :: rest => do
    let ((path, key), rest) ← readKey rest
    match rest with
    | ']' :: rest => some (.tableHeader path key, rest)
    | _ => none
  | [] => some (.blank, [])
  | c :: rest =>
    if c = '#' ∨ c = '\n' ∨ c = '\r' then some (.blank, c :: rest)
    else (readAssignment readValue (c :: rest)).map fun (((path, key), value), rest) =>
      (.assignment path key value, rest)

/-- Reads a line. -/
def readLine : Reader Line := fun chars => do
  let (line, rest) ← readLineBody chars
  (endLine? rest).map fun rest => (line, rest)

/-- Reads lines up to the end of the text, at most as many as the number says. -/
def readLines : Nat → List Char → Option (List Line)
  | _, [] => some []
  | 0, _ :: _ => none
  | bound + 1, chars => do
    let (line, rest) ← readLine chars
    (readLines bound rest).map (line :: ·)

/-! ## Documents -/

/-- A document up to some line. -/
structure Draft where
  /-- The table of the document. -/
  root : Toml
  /-- The path of the latest header. -/
  path : List String

/-- The document after one more line. -/
def Draft.add (draft : Draft) : Line → Option Draft
  | .blank => some draft
  | .tableHeader path key => (openTable path key draft.root).map fun root => ⟨root, path ++ [key]⟩
  | .itemHeader path key => (openItem path key draft.root).map fun root => ⟨root, path ++ [key]⟩
  | .assignment path key value =>
    (alter false (assign path key value) draft.path draft.root).map fun root =>
      { draft with root }

/-- The table that a text describes; none if it is no document.  A byte order mark
    in front does not count. -/
def ofText? (content : String) : Option Toml := do
  let chars := match content.toList with
    | '\ufeff' :: rest => rest
    | chars => chars
  let lines ← readLines (chars.length + 1) chars
  let draft ← lines.foldlM Draft.add ⟨table .header [], []⟩
  some draft.root

end TaskQuery.Toml
