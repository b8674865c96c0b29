/-
  TaskQuery — the numbers of JSON text.

  The digits of a numeral are collected in a significand as long as it fits in
  64 bits; digits that no longer fit are dropped, those before the point raising
  the exponent.  A numeral without fraction and exponent whose value fits in
  64 bits is an integer.  Any other is the floating-point number nearest to the
  significand, multiplied or divided by a power of ten and rounded again; a
  result beyond the finite numbers is refused.

  * `Json.collect` fills the significand;
  * `Json.scale?` applies the power of ten;
  * `Json.numeralValue?` is the value of a numeral.
-/
import TaskQuery.Json.Basic
import TaskQuery.Number.Numeral

namespace TaskQuery.Json

open Number (digitsValue)

/-- The significand after as many of the digits as fit in 64 bits, and the
    number of digits that were left. -/
def collect (significand : Nat) : List Char → Nat × Nat
  | [] => (significand, 0)
  | c :: digits =>
    let next := significand * 10 + digitsValue [c]
    if next < twoTo 64 then collect next digits else (significand, digits.length + 1)

/-- The number that results from dividing the magnitude of step `n` by a power of
    ten, itself rounded to a number. -/
def divideStep (n power : Nat) : Nat :=
  Number.nearest (Number.units n) (Number.units (Number.nearest (tenTo power) 1))

/-- The number that results from multiplying the magnitude of step `n` by a power
    of ten, itself rounded to a number. -/
def multiplyStep (n power : Nat) : Nat :=
  Number.nearest (Number.units n * Number.units (Number.nearest (tenTo power) 1)) (twoTo 2148)

/-- The step of `significand * 10 ^ exponent`; none beyond the finite numbers.
    Powers over `10 ^ 308` are applied in two parts, which is enough to reach
    zero. -/
def scale? (significand : Nat) (exponent : Int) : Option Nat :=
  let n := Number.nearest significand 1
  if n = 0 then some 0
  else if 308 < exponent then none
  else if 0 ≤ exponent then
    let scaled := multiplyStep n exponent.toNat
    if scaled < Number.stepCount then some scaled else none
  else
    let power := (-exponent).toNat
    if power ≤ 308 then some (divideStep n power)
    else if power ≤ 616 then some (divideStep (divideStep n 308) (power - 308))
    else some 0

/-- A numeral as it is written. -/
structure Numeral where
  /-- Whether there is a minus sign. -/
  negative : Bool
  /-- The digits before the point. -/
  whole : List Char
  /-- The digits after the point, if there is one. -/
  fraction : Option (List Char)
  /-- The exponent, if there is one. -/
  exponent : Option Int

/-- The value of a numeral; none beyond the finite numbers. -/
def numeralValue? (numeral : Numeral) : Option Json :=
  let (whole, dropped) := collect 0 numeral.whole
  let fraction := numeral.fraction.getD []
  let (significand, left) := collect whole fraction
  if numeral.fraction.isNone ∧ numeral.exponent.isNone ∧ dropped = 0
      ∧ (numeral.negative → 0 < whole ∧ whole ≤ twoTo 63) then
    some (.integer (if numeral.negative then -whole else whole))
  else
    let point : Int := dropped - (fraction.length - left : Nat)
    (scale? significand (point + numeral.exponent.getD 0)).map fun step =>
      .number (Number.ofStep numeral.negative step)

end TaskQuery.Json
