/-
  TaskQuery — the scalars of TOML: numbers, truth values, dates and times.

  A scalar that is no string is a word of letters, digits, signs, points, colons
  and underscores; a date and a time may be joined by one blank.

  * `Toml.digitGroups?` reads digits with underscores between them;
  * `Toml.integer?`, `float?` and `moment?` are the kinds of words, and
    `Toml.ofWord?` the value of a word.
-/
import TaskQuery.Calendar.Reading
import TaskQuery.Toml.Basic

namespace TaskQuery.Toml

/-! ## Numbers -/

/-- The digits of a group of digits, which single underscores may separate. -/
def digitGroups? (isDigit : Char → Bool) : List Char → Option (List Char)
  | [] => none
  | [c] => if isDigit c then some [c] else none
  | c :: '_' :: rest => if isDigit c then (digitGroups? isDigit rest).map (c :: ·) else none
  | c :: rest => if isDigit c then (digitGroups? isDigit rest).map (c :: ·) else none

/-- The value of a digit in any base up to sixteen. -/
def digitValue (c : Char) : Nat :=
  if c.isDigit then c.toNat - '0'.toNat else c.toLower.toNat - 'a'.toNat + 10

/-- Whether a character is a digit of a base. -/
def isDigitOf (base : Nat) (c : Char) : Bool :=
  (c.isDigit || ('a' ≤ c.toLower && c.toLower ≤ 'f')) && digitValue c < base

/-- The value of digits in a base. -/
def valueIn (base : Nat) (digits : List Char) : Nat :=
  digits.foldl (fun value c => value * base + digitValue c) 0

/-- The digits of a decimal number without needless zeros in front. -/
def decimalDigits? (word : List Char) : Option (List Char) :=
  match digitGroups? Char.isDigit word with
  | some ('0' :: _ :: _) => none
  | digits => digits

/-- An integer of 64 bits. -/
def integer? (word : List Char) : Option Toml :=
  let value : Option Int := match word with
    | '0' :: 'x' :: rest => (digitGroups? (isDigitOf 16) rest).map fun ds => (valueIn 16 ds : Int)
    | '0' :: 'o' :: rest => (digitGroups? (isDigitOf 8) rest).map fun ds => (valueIn 8 ds : Int)
    | '0' :: 'b' :: rest => (digitGroups? (isDigitOf 2) rest).map fun ds => (valueIn 2 ds : Int)
    | _ =>
      let (negative, body) := Number.splitSign word
      (decimalDigits? body).map fun ds =>
        if negative then -(valueIn 10 ds : Int) else (valueIn 10 ds : Int)
  value.bind fun i => if -twoTo 63 ≤ i ∧ i < twoTo 63 then some (.integer i) else none

/-- The exponent of a floating-point number; the empty text stands for zero. -/
def exponent? : List Char → Option Int
  | [] => some 0
  | e :: rest =>
    let (negative, body) := Number.splitSign rest
    if e = 'e' ∨ e = 'E' then
      (digitGroups? Char.isDigit body).map fun ds =>
        if negative then -(valueIn 10 ds : Int) else (valueIn 10 ds : Int)
    else none

/-- A floating-point number: with a fraction, an exponent or both, or one of two
    words.  One above the finite numbers is refused. -/
def float? (word : List Char) : Option Toml :=
  let (negative, body) := Number.splitSign word
  if body = ['i', 'n', 'f'] then some (.float (.infinite negative))
  else if body = ['n', 'a', 'n'] then some (.float .nan)
  else
    let isPart (c : Char) := c.isDigit || c = '_'
    let whole := body.takeWhile isPart
    let rest := body.dropWhile isPart
    let (fraction, rest) := match rest with
      | '.' :: after => (some (after.takeWhile isPart), after.dropWhile isPart)
      | _ => (none, rest)
    if fraction.isNone ∧ rest = [] then none
    else do
      let whole ← decimalDigits? whole
      let fraction ← match fraction with
        | some part => digitGroups? Char.isDigit part
        | none => some []
      let exponent ← exponent? rest
      let value := Number.ofDecimal negative (valueIn 10 (whole ++ fraction))
        (exponent - fraction.length)
      if value = .infinite false then none else some (.float value)

/-! ## Dates and times -/

/-- A time of day, and the text after it. -/
def timeOfDay? (text : List Char) : Option (Instant.TimeOfDay × List Char) := do
  let (hour, rest) ← Instant.twoDigits? text
  let rest ← Instant.expect? ':' rest
  let (minute, rest) ← Instant.twoDigits? rest
  let rest ← Instant.expect? ':' rest
  let (second, rest) ← Instant.twoDigits? rest
  let (nano, rest) ← Instant.fraction? rest
  let time : Instant.TimeOfDay := ⟨hour, minute, second, nano⟩
  if time.Valid then some (time, rest) else none

/-- A date, and the text after it. -/
def date? (text : List Char) : Option (Date × List Char) := do
  let (century, rest) ← Instant.twoDigits? text
  let (years, rest) ← Instant.twoDigits? rest
  let rest ← Instant.expect? '-' rest
  let (month, rest) ← Instant.twoDigits? rest
  let rest ← Instant.expect? '-' rest
  let (day, rest) ← Instant.twoDigits? rest
  let date : Date := ⟨century * 100 + years, month, day⟩
  if date.Valid then some (date, rest) else none

/-- Whether a text is an offset from universal time, or empty. -/
def isOffset (text : List Char) : Bool :=
  text = [] || (text.head? ≠ some '\u2212' && match Instant.offset? text with
    | some (_, []) => true
    | _ => false)

/-- Whether a text is a time of day with an offset or without. -/
def isTime (offset : Bool) (text : List Char) : Bool :=
  match timeOfDay? text with
  | some (_, rest) => if offset then isOffset rest else rest = []
  | none => false

/-- A date, a time, or both. -/
def moment? (word : List Char) : Option Toml :=
  let valid := match date? word with
    | some (_, []) => true
    | some (_, c :: rest) => (c = 'T' || c = 't' || c = ' ') && isTime true rest
    | none => isTime false word
  if valid then some (.moment (String.ofList word)) else none

/-! ## Words -/

/-- Whether a character can be part of a word. -/
def isWordChar (c : Char) : Bool :=
  c.isAlphanum || c = '+' || c = '-' || c = '_' || c = '.' || c = ':'

/-- The value of a word. -/
def ofWord? (word : List Char) : Option Toml :=
  if word = "true".toList then some (.boolean true)
  else if word = "false".toList then some (.boolean false)
  else match integer? word with
    | some value => some value
    | none => match float? word with
      | some value => some value
      | none => moment? word

/-- Reads a word, or a date and a time joined by one blank. -/
def readWord (text : List Char) : Option (Toml × List Char) :=
  let word := text.takeWhile isWordChar
  let rest := text.dropWhile isWordChar
  match date? word, rest with
  | some (_, []), ' ' :: c :: after =>
    if c.isDigit then
      let time := (c :: after).takeWhile isWordChar
      (ofWord? (word ++ ' ' :: time)).map fun value => (value, (c :: after).dropWhile isWordChar)
    else (ofWord? word).map fun value => (value, rest)
  | _, _ => (ofWord? word).map fun value => (value, rest)

end TaskQuery.Toml
