/-
  TaskQuery — numbers: binary floating point of 64 bits, exactly.

  The finite numbers of either sign are counted by magnitude: step `0` is zero
  and step `n + 1` the next magnitude above step `n`.  Every magnitude is a
  whole number of units of `2 ^ -1074`, so values, rounding and comparison are
  arithmetic on natural numbers.

  * `twoTo k` and `tenTo k` are the powers of two and ten;
  * `Number` is the type, and `Number.units n` the magnitude of step `n`;
  * `Number.rank` places all numbers but NaN on the integers, the two zeros on
    one place; `Number.compare?` and `Number.equal` go by rank;
  * `Number.nearest num den` is the step nearest to a ratio, a tie going to the
    even step, and `Number.ofRatio` the number;
  * `Number.compare?_swap`: comparing the other way round reverses the order.
-/

namespace TaskQuery

/-! ## Powers -/

/-- The power `2 ^ k`. -/
def twoTo (k : Nat) : Nat := Nat.pow 2 k

/-- The power `10 ^ k`. -/
def tenTo (k : Nat) : Nat := Nat.pow 10 k

/-- Adding exponents multiplies powers of two. -/
theorem twoTo_add (j k : Nat) : twoTo (j + k) = twoTo j * twoTo k :=
  Nat.pow_add 2 j k

/-- Powers of two are positive. -/
theorem twoTo_pos (k : Nat) : 0 < twoTo k :=
  Nat.pow_pos (by decide)

/-- Powers of ten are positive. -/
theorem tenTo_pos (k : Nat) : 0 < tenTo k :=
  Nat.pow_pos (by decide)

/-! ## Numbers -/

/-- The number of finite magnitudes. -/
abbrev Number.stepCount : Nat := 2047 * twoTo 52

/-- A binary floating-point number of 64 bits. -/
inductive Number where
  /-- The value that is not a number. -/
  | nan
  /-- An infinity. -/
  | infinite (negative : Bool)
  /-- The finite number with the sign and the magnitude of step `step`. -/
  | finite (negative : Bool) (step : Fin Number.stepCount)
  deriving DecidableEq

namespace Number

/-! ## Values -/

/-- Zero with a sign. -/
def zero (negative : Bool) : Number :=
  .finite negative ⟨0, by decide⟩

/-- The magnitude of step `n` in units of `2 ^ -1074`. -/
def units (n : Nat) : Nat :=
  if n < twoTo 52 then n else (twoTo 52 + n % twoTo 52) * twoTo (n / twoTo 52 - 1)

/-- Whether a number is neither infinite nor NaN. -/
def isFinite : Number → Bool
  | .finite .. => true
  | _ => false

/-! ## Order -/

/-- The place of a number among the integers; none for NaN. -/
def rank : Number → Option Int
  | .nan => none
  | .infinite negative => some (if negative then -stepCount else stepCount)
  | .finite negative step => some (if negative then -step.val else step.val)

/-- The order of two numbers; none if one of them is NaN. -/
def compare? (a b : Number) : Option Ordering :=
  match a.rank, b.rank with
  | some i, some j => some (compare i j)
  | _, _ => none

/-- Equality of numbers: NaN equals nothing, and the two zeros are equal. -/
def equal (a b : Number) : Bool :=
  a.compare? b == some .eq

/-- Comparing the other way round reverses the order. -/
theorem compare?_swap (a b : Number) : b.compare? a = (a.compare? b).map Ordering.swap := by
  unfold compare?
  cases a.rank <;> cases b.rank <;> simp [Int.compare_swap]

/-! ## Rounding -/

/-- The quotient of two natural numbers rounded to the nearest, a tie going to
    the even neighbour. -/
def roundDiv (num den : Nat) : Nat :=
  let quotient := num / den
  let rest := num % den
  if 2 * rest < den ∨ (2 * rest = den ∧ quotient % 2 = 0) then quotient else quotient + 1

/-- The step nearest to the ratio `num / den`, a tie going to the even step.
    Steps from `stepCount` on stand for the magnitudes beyond the finite ones. -/
def nearest (num den : Nat) : Nat :=
  let scaled := num * twoTo 1074
  let binade := (scaled / den).log2 - 52
  binade * twoTo 52 + roundDiv scaled (den * twoTo binade)

/-- The number with the magnitude of step `n`, infinite beyond the finite
    magnitudes. -/
def ofStep (negative : Bool) (n : Nat) : Number :=
  if h : n < stepCount then .finite negative ⟨n, h⟩ else .infinite negative

/-- The number nearest to the ratio `num / den`. -/
def ofRatio (negative : Bool) (num den : Nat) : Number :=
  ofStep negative (nearest num den)

/-- The number nearest to an integer. -/
def ofInt (i : Int) : Number :=
  ofRatio (i < 0) i.natAbs 1

/-- The number nearest to `digits * 10 ^ exponent`.  Beyond four hundred decimal
    places on either side the answer is known without the power. -/
def ofDecimal (negative : Bool) (digits : Nat) (exponent : Int) : Number :=
  let top := (digits.log2 : Int) * 30103 / 100000 + exponent
  if digits = 0 ∨ top < -400 then zero negative
  else if 400 < top then .infinite negative
  else if 0 ≤ exponent then ofRatio negative (digits * tenTo exponent.toNat) 1
  else ofRatio negative digits (tenTo (-exponent).toNat)

end Number

end TaskQuery
