/-
  TaskQuery — reading instants from text.

  Three forms are read, in this order: a timestamp with an offset, all of whose
  numbers have their full width; a timestamp without one, taken as universal
  time; and a date, taken as its midnight.  In the last two a number may be
  short and may follow blanks, and the year may have a sign, and then any
  number of digits.

  * `twoDigits?`, `number?`, `year?`, `fraction?` and `offset?` read the parts;
    each returns the value and the text after it;
  * `Instant.ofParts?` checks the ranges of the parts and makes the instant;
  * `Instant.ofText?` reads an instant.
-/
import TaskQuery.Calendar.Instant
import TaskQuery.Number.Numeral
import TaskQuery.Text.Blank

namespace TaskQuery.Instant

open Number (digitsValue)

/-! ## Parts -/

/-- The text after a character that it has to start with. -/
def expect? (c : Char) : List Char → Option (List Char)
  | d :: rest => if d = c then some rest else none
  | [] => none

/-- A number of exactly two digits. -/
def twoDigits? : List Char → Option (Nat × List Char)
  | a :: b :: rest =>
    if a.isDigit ∧ b.isDigit then some (digitsValue [a, b], rest) else none
  | _ => none

/-- A number of one to `width` digits. -/
def number? (width : Nat) (text : List Char) : Option (Nat × List Char) :=
  let digits := (text.take width).takeWhile Char.isDigit
  if digits = [] then none else some (digitsValue digits, text.drop digits.length)

/-- A number of one to `width` digits after any blanks. -/
def spacedNumber? (width : Nat) (text : List Char) : Option (Nat × List Char) :=
  number? width (Text.trimStart text)

/-- A year after any blanks: up to four digits, or a sign and any number of
    digits. -/
def year? (text : List Char) : Option (Int × List Char) :=
  match Text.trimStart text with
  | '-' :: rest => (number? rest.length rest).map fun (n, after) => (-(n : Int), after)
  | '+' :: rest => (number? rest.length rest).map fun (n, after) => ((n : Int), after)
  | rest => (number? 4 rest).map fun (n, after) => ((n : Int), after)

/-- Nanoseconds: nothing, or a point and at least one digit, of which the first
    nine count. -/
def fraction? : List Char → Option (Nat × List Char)
  | '.' :: rest =>
    let digits := rest.takeWhile Char.isDigit
    if digits = [] then none
    else
      let counted := digits.take 9
      some (digitsValue counted * tenTo (9 - counted.length), rest.dropWhile Char.isDigit)
  | text => some (0, text)

/-- The offset from universal time in seconds: a letter Z, or a sign, two digits
    of hours, a colon and two digits of minutes. -/
def offset? : List Char → Option (Int × List Char)
  | [] => none
  | c :: rest =>
    if c = 'Z' ∨ c = 'z' then some (0, rest)
    else if c = '+' ∨ c = '-' ∨ c = '\u2212' then do
      let (hours, rest) ← twoDigits? rest
      let rest ← expect? ':' rest
      let (minutes, rest) ← twoDigits? rest
      let seconds : Int := hours * 3600 + minutes * 60
      if minutes < 60 ∧ seconds < 86400 then
        some (if c = '+' then seconds else -seconds, rest)
      else none
    else none

/-! ## Instants -/

/-- A time of day as it is read: hour, minute, second and nanosecond. -/
structure TimeOfDay where
  /-- The hour. -/
  hour : Nat
  /-- The minute. -/
  minute : Nat
  /-- The second; `60` is a leap second. -/
  second : Nat
  /-- The nanosecond. -/
  nano : Nat

/-- The ranges of the parts of a time of day. -/
def TimeOfDay.Valid (t : TimeOfDay) : Prop :=
  t.hour < 24 ∧ t.minute < 60 ∧ t.second ≤ 60 ∧ t.nano < nanosPerSecond

instance (t : TimeOfDay) : Decidable t.Valid :=
  inferInstanceAs (Decidable (_ ∧ _ ∧ _ ∧ _))

/-- The years of the calendar. -/
def YearInRange (year : Int) : Prop :=
  -262143 ≤ year ∧ year ≤ 262142

instance (year : Int) : Decidable (YearInRange year) :=
  inferInstanceAs (Decidable (_ ∧ _))

/-- The instant of a date and a time of day at an offset. -/
def ofParts? (date : Date) (time : TimeOfDay) (offset : Int) : Option Instant :=
  if date.Valid ∧ YearInRange date.year ∧ time.Valid then
    let leap := time.second / 60
    some ⟨date.dayNumber * 86400 + time.hour * 3600 + time.minute * 60 + (time.second - leap : Nat)
      - offset, time.nano + leap * nanosPerSecond⟩
  else none

/-- A timestamp with an offset. -/
def ofOffsetText? (text : List Char) : Option Instant := do
  let (century, rest) ← twoDigits? text
  let (years, rest) ← twoDigits? rest
  let rest ← expect? '-' rest
  let (month, rest) ← twoDigits? rest
  let rest ← expect? '-' rest
  let (day, rest) ← twoDigits? rest
  let rest ← expect? 'T' rest <|> expect? 't' rest <|> expect? ' ' rest
  let (hour, rest) ← twoDigits? rest
  let rest ← expect? ':' rest
  let (minute, rest) ← twoDigits? rest
  let rest ← expect? ':' rest
  let (second, rest) ← twoDigits? rest
  let (nano, rest) ← fraction? rest
  let (offset, rest) ← offset? rest
  if rest = [] then ofParts? ⟨century * 100 + years, month, day⟩ ⟨hour, minute, second, nano⟩ offset
  else none

/-- A date in the form with short numbers, and the text after it. -/
def looseDate? (text : List Char) : Option (Date × List Char) := do
  let (year, rest) ← year? text
  let rest ← expect? '-' rest
  let (month, rest) ← spacedNumber? 2 rest
  let rest ← expect? '-' rest
  let (day, rest) ← spacedNumber? 2 rest
  some (⟨year, month, day⟩, rest)

/-- A timestamp without an offset. -/
def ofPlainText? (text : List Char) : Option Instant := do
  let (date, rest) ← looseDate? text
  let rest ← expect? 'T' rest
  let (hour, rest) ← spacedNumber? 2 rest
  let rest ← expect? ':' rest
  let (minute, rest) ← spacedNumber? 2 rest
  let rest ← expect? ':' rest
  let (second, rest) ← spacedNumber? 2 rest
  let (nano, rest) ← fraction? rest
  if rest = [] then ofParts? date ⟨hour, minute, second, nano⟩ 0 else none

/-- A date, which stands for its midnight. -/
def ofDateText? (text : List Char) : Option Instant := do
  let (date, rest) ← looseDate? text
  if rest = [] then ofParts? date ⟨0, 0, 0, 0⟩ 0 else none

/-- The instant that a text is. -/
def ofText? (text : String) : Option Instant :=
  ofOffsetText? text.toList <|> ofPlainText? text.toList <|> ofDateText? text.toList

end TaskQuery.Instant
