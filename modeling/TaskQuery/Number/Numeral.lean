/-
  TaskQuery — reading numbers from text.

  A numeral is an optional sign, digits with at most one point among or around
  them (and at least one digit), and an optional exponent: a letter E, an
  optional sign and at least one digit.  The words for infinity and NaN are
  read too, in either case.

  * `Number.Numeral` is what is read: a sign, the digits as a whole number, and
    the power of ten of the last one;
  * `Numeral.ofChars?` reads one, `Number.ofText?` reads a number;
  * `splitSign_of_ne`: a text that begins otherwise has no sign;
  * `Count` is a whole number of 32 bits: its text is digits, with or without a plus
    sign in front, and `Count.ofSignedText?` also knows a zero with a minus sign.
-/
import TaskQuery.Number.Basic

namespace TaskQuery

namespace Number

/-! ## Numerals -/

/-- The value of a run of decimal digits. -/
def digitsValue (digits : List Char) : Nat :=
  digits.foldl (fun value c => value * 10 + (c.toNat - '0'.toNat)) 0

/-- A sign, if there is one, and the text after it. -/
def splitSign : List Char → Bool × List Char
  | '-' :: rest => (true, rest)
  | '+' :: rest => (false, rest)
  | text => (false, text)

theorem splitSign_of_ne {c : Char} (hminus : c ≠ '-') (hplus : c ≠ '+') (rest : List Char) :
    splitSign (c :: rest) = (false, c :: rest) := by
  unfold splitSign
  split
  · rename_i h
    exact absurd (List.cons.inj h).1 hminus
  · rename_i h
    exact absurd (List.cons.inj h).1 hplus
  · rfl

/-- A numeral without its sign: `digits * 10 ^ exponent`. -/
structure Numeral where
  /-- The digits before and after the point as a whole number. -/
  digits : Nat
  /-- The power of ten of the last digit. -/
  exponent : Int

/-- The exponent that a text is: an E, an optional sign and digits; the empty
    text stands for zero. -/
def exponent? : List Char → Option Int
  | [] => some 0
  | e :: rest =>
    let (negative, digits) := splitSign rest
    if (e = 'e' ∨ e = 'E') ∧ digits ≠ [] ∧ digits.all Char.isDigit then
      some (if negative then -digitsValue digits else digitsValue digits)
    else none

/-- The numeral that a text without a sign is. -/
def Numeral.ofChars? (text : List Char) : Option Numeral :=
  let whole := text.takeWhile Char.isDigit
  let (fraction, rest) := match text.dropWhile Char.isDigit with
    | '.' :: after => (after.takeWhile Char.isDigit, after.dropWhile Char.isDigit)
    | after => ([], after)
  if whole = [] ∧ fraction = [] then none
  else (exponent? rest).map fun exponent =>
    ⟨digitsValue (whole ++ fraction), exponent - fraction.length⟩

/-- The number that a word stands for. -/
def ofWord? (negative : Bool) (text : List Char) : Option Number :=
  let word := String.ofList (text.map Char.toLower)
  if word = "inf" ∨ word = "infinity" then some (.infinite negative)
  else if word = "nan" then some .nan
  else none

/-- The number that a text is. -/
def ofText? (text : String) : Option Number :=
  let (negative, body) := splitSign text.toList
  match Numeral.ofChars? body with
  | some numeral => some (ofDecimal negative numeral.digits numeral.exponent)
  | none => ofWord? negative body

end Number

/-! ## Counts -/

/-- A whole number of 32 bits. -/
abbrev Count := Fin UInt32.size

namespace Count

/-- The count of a whole number. -/
def ofNat? (n : Nat) : Option Count :=
  if h : n < UInt32.size then some ⟨n, h⟩ else none

/-- The count that some digits are. -/
def ofDigits? (digits : List Char) : Option Count :=
  if digits ≠ [] ∧ digits.all Char.isDigit then ofNat? (Number.digitsValue digits) else none

/-- The count that a text is. -/
def ofText? (text : String) : Option Count :=
  match text.toList with
  | '+' :: digits => ofDigits? digits
  | digits => ofDigits? digits

/-- The count that a text is, which may be a zero with a minus sign. -/
def ofSignedText? (text : String) : Option Count :=
  match text.toList with
  | '-' :: digits => (ofDigits? digits).filter (·.val = 0)
  | _ => ofText? text

end Count

end TaskQuery
