/-
  TaskQuery — reading JSON text.

  A text is refused for its syntax or because it ends too early; these are the
  two faults, and the first one met is reported.  Arrays and objects nest at
  most 127 deep.  Members with the same key are all kept.

  * `Json.Reader` is a reader of one part of a text, which returns what it read
    and the text after it;
  * `Json.StringState` is the state inside a string: escapes for characters
    outside the basic plane come in pairs;
  * `Json.readValue` reads a value, and `Json.skipBlanks` the blanks before one.
-/
import TaskQuery.Json.Numeral

namespace TaskQuery.Json

/-- Why a text is not JSON. -/
inductive Fault where
  /-- A character that cannot stand where it is. -/
  | syntaxError
  /-- The text ends within a value. -/
  | earlyEnd
  deriving DecidableEq

/-- A reader of one part of a text: what it read, and the text after it. -/
abbrev Reader (α : Type) := List Char → Except Fault (α × List Char)

/-- The text after any blanks. -/
def skipBlanks (text : List Char) : List Char :=
  text.dropWhile fun c => c = ' ' ∨ c = '\n' ∨ c = '\t' ∨ c = '\r'

/-! ## Words and numbers -/

/-- Reads the rest of a word. -/
def readWord (value : Json) : List Char → Reader Json
  | [], text => .ok (value, text)
  | _ :: _, [] => .error .earlyEnd
  | c :: word, d :: text => if d = c then readWord value word text else .error .syntaxError

/-- Reads the digits before the point: a zero alone, or digits without a zero in
    front. -/
def readWhole : Reader (List Char)
  | [] => .error .earlyEnd
  | '0' :: rest =>
    if (rest.head?.map Char.isDigit).getD false then .error .syntaxError else .ok (['0'], rest)
  | c :: rest =>
    if c.isDigit then .ok (c :: rest.takeWhile Char.isDigit, rest.dropWhile Char.isDigit)
    else .error .syntaxError

/-- Reads at least one digit. -/
def readDigits (text : List Char) : Except Fault (List Char × List Char) :=
  let digits := text.takeWhile Char.isDigit
  if digits = [] then .error (if text = [] then .earlyEnd else .syntaxError)
  else .ok (digits, text.dropWhile Char.isDigit)

/-- Reads a point and the digits after it, if there is a point. -/
def readFraction : Reader (Option (List Char))
  | '.' :: rest => (readDigits rest).map fun (digits, rest) => (some digits, rest)
  | text => .ok (none, text)

/-- Reads an exponent, if there is one. -/
def readExponent : Reader (Option Int)
  | [] => .ok (none, [])
  | c :: rest =>
    if c = 'e' ∨ c = 'E' then
      let (negative, body) := Number.splitSign rest
      (readDigits body).map fun (digits, rest) =>
        let power := Number.digitsValue digits
        (some (if negative then -power else power), rest)
    else .ok (none, c :: rest)

/-- Reads a number after its sign. -/
def readNumber (negative : Bool) (text : List Char) : Except Fault (Json × List Char) := do
  let (whole, rest) ← readWhole text
  let (fraction, rest) ← readFraction rest
  let (exponent, rest) ← readExponent rest
  match numeralValue? ⟨negative, whole, fraction, exponent⟩ with
  | some value => .ok (value, rest)
  | none => .error .syntaxError

/-! ## Strings -/

/-- The state inside a string. -/
inductive StringState where
  /-- Between characters. -/
  | plain
  /-- After a backslash. -/
  | escape
  /-- Within four hexadecimal digits: how many are left, the value of those read,
      and the first half of the pair that they are to complete. -/
  | hex (left value : Nat) (half : Option Nat)
  /-- After the first half of a pair: before the backslash of the second. -/
  | high (half : Nat)
  /-- After the first half of a pair: before the letter of the second. -/
  | highEscape (half : Nat)

/-- The character of a one-letter escape. -/
def escapedChar? (c : Char) : Option Char :=
  if c = '"' ∨ c = '\\' ∨ c = '/' then some c
  else if c = 'b' then some '\x08'
  else if c = 'f' then some '\x0c'
  else if c = 'n' then some '\n'
  else if c = 'r' then some '\r'
  else if c = 't' then some '\t'
  else none

/-- The value of a hexadecimal digit. -/
def hexValue? (c : Char) : Option Nat :=
  if c.isDigit then some (c.toNat - '0'.toNat)
  else if 'a' ≤ c ∧ c ≤ 'f' then some (c.toNat - 'a'.toNat + 10)
  else if 'A' ≤ c ∧ c ≤ 'F' then some (c.toNat - 'A'.toNat + 10)
  else none

/-- Whether a text has less than four bytes. -/
def shortOfFour (text : List Char) : Bool :=
  (text.take 4).foldl (fun bytes c => bytes + c.utf8Size) 0 < 4

/-- The state after four hexadecimal digits of a value, with the character that
    they complete. -/
def closeHex (value : Nat) : Option Nat → Except Fault (StringState × List Char)
  | none =>
    if 0xDC00 ≤ value ∧ value ≤ 0xDFFF then .error .syntaxError
    else if 0xD800 ≤ value ∧ value ≤ 0xDBFF then .ok (.high value, [])
    else .ok (.plain, [Char.ofNat value])
  | some half =>
    if 0xDC00 ≤ value ∧ value ≤ 0xDFFF then
      .ok (.plain, [Char.ofNat ((half - 0xD800) * 0x400 + (value - 0xDC00) + 0x10000)])
    else .error .syntaxError

/-- The state after a character other than the closing quote, before the text
    `rest`, with the characters that are complete. -/
def StringState.step (rest : List Char) (c : Char) :
    StringState → Except Fault (StringState × List Char)
  | .plain =>
    if c = '\\' then .ok (.escape, [])
    else if c.toNat < 0x20 then .error .syntaxError
    else .ok (.plain, [c])
  | .escape =>
    if c = 'u' then
      if shortOfFour rest then .error .earlyEnd else .ok (.hex 4 0 none, [])
    else match escapedChar? c with
      | some d => .ok (.plain, [d])
      | none => .error .syntaxError
  | .hex left value first =>
    match hexValue? c with
    | none => .error .syntaxError
    | some digit =>
      let value := value * 16 + digit
      if left ≤ 1 then closeHex value first else .ok (.hex (left - 1) value first, [])
  | .high half => if c = '\\' then .ok (.highEscape half, []) else .error .syntaxError
  | .highEscape half =>
    if c = 'u' then
      if shortOfFour rest then .error .earlyEnd else .ok (.hex 4 0 (some half), [])
    else .error .syntaxError

/-- Whether a state is between characters. -/
def StringState.isPlain : StringState → Bool
  | .plain => true
  | _ => false

/-- Reads the rest of a string in a state, after the characters `before`, the
    latest first. -/
def readStringFrom (state : StringState) (before : List Char) : Reader String
  | [] => .error .earlyEnd
  | c :: rest =>
    if c = '"' ∧ state.isPlain then .ok (String.ofList before.reverse, rest)
    else match state.step rest c with
      | .error fault => .error fault
      | .ok (next, chars) => readStringFrom next (chars ++ before) rest

/-- Reads a string after its opening quote. -/
def readString : Reader String :=
  readStringFrom .plain []

/-! ## Arrays and objects -/

/-- Reads the items of an array up to the closing bracket; `first` before the
    first one.  The number bounds the items. -/
def readItems (item : Reader Json) : (first : Bool) → Nat → Reader (List Json)
  | _, 0, _ => .error .earlyEnd
  | first, bound + 1, text =>
    match skipBlanks text with
    | [] => .error .earlyEnd
    | c :: rest =>
      let next : Except Fault (List Json × List Char) := do
        let (value, rest) ← item (if first then c :: rest else skipBlanks rest)
        let (values, rest) ← readItems item false bound rest
        return (value :: values, rest)
      if c = ']' then .ok ([], rest)
      else if first then next
      else if c ≠ ',' then .error .syntaxError
      else if (skipBlanks rest).head? = some ']' then .error .syntaxError
      else next

/-- Reads a key, a colon and a value, after the opening quote of the key. -/
def readMember (value : Reader Json) (text : List Char) :
    Except Fault ((String × Json) × List Char) := do
  let (key, rest) ← readString text
  match skipBlanks rest with
  | [] => .error .earlyEnd
  | ':' :: rest =>
    let (value, rest) ← value rest
    return ((key, value), rest)
  | _ :: _ => .error .syntaxError

/-- Reads the members of an object up to the closing brace; `first` before the
    first one.  The number bounds the members. -/
def readMembers (value : Reader Json) : (first : Bool) → Nat → Reader (List (String × Json))
  | _, 0, _ => .error .earlyEnd
  | first, bound + 1, text =>
    match skipBlanks text with
    | [] => .error .earlyEnd
    | c :: rest =>
      if c = '\x7d' then .ok ([], rest)
      else if !first && c ≠ ',' then .error .syntaxError
      else match if first then c :: rest else skipBlanks rest with
        | [] => .error .earlyEnd
        | '"' :: rest => do
          let (member, rest) ← readMember value rest
          let (members, rest) ← readMembers value false bound rest
          return (member :: members, rest)
        | _ :: _ => .error .syntaxError

/-- Reads a value after any blanks, with arrays and objects nested at most
    `depth` deep, each of at most `bound` items or members. -/
def readNested (bound : Nat) : (depth : Nat) → Reader Json
  | depth, text =>
    match skipBlanks text with
    | [] => .error .earlyEnd
    | c :: rest =>
      if c = 'n' then readWord .null "ull".toList rest
      else if c = 't' then readWord (.bool true) "rue".toList rest
      else if c = 'f' then readWord (.bool false) "alse".toList rest
      else if c = '-' then readNumber true rest
      else if c.isDigit then readNumber false (c :: rest)
      else if c = '"' then (readString rest).map fun (s, rest) => (.string s, rest)
      else match depth with
        | 0 => .error .syntaxError
        | depth + 1 =>
          if c = '[' then
            (readItems (readNested bound depth) true bound rest).map fun (items, rest) =>
              (.array items, rest)
          else if c = '\x7b' then
            (readMembers (readNested bound depth) true bound rest).map fun (members, rest) =>
              (.object members, rest)
          else .error .syntaxError

/-- The greatest depth of nested arrays and objects. -/
def maxDepth : Nat := 127

/-- Reads a value.  No value has more items or members than its text has
    characters. -/
def readValue : Reader Json := fun text =>
  readNested (text.length + 1) maxDepth text

end TaskQuery.Json
