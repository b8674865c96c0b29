/-
  TaskQuery — the shortest decimal text of a number.

  The reals that round to a number form an interval around it: halfway to its
  two neighbours, the ends included where its step is even.  The digits shown
  are the fewest with which a decimal lies in the interval, and of the decimals
  with so many digits the one nearest to the number.  Where two are equally
  near, the style decides.

  * `Number.Decimal` is `digits * 10 ^ place`;
  * `Number.shortest style n` is the shortest decimal of step `n`;
  * `Number.Style` is a way to write decimals: `Number.plain` never uses an
    exponent, `Number.exponential` does beyond sixteen places before and five
    after the point, and always shows a fraction or an exponent;
  * `Number.toText` is the plain text of a number.
-/
import TaskQuery.Number.Basic

namespace TaskQuery.Number

/-! ## Decimals -/

/-- The decimal `digits * 10 ^ place`. -/
structure Decimal where
  /-- The digits as a whole number. -/
  digits : Nat
  /-- The power of ten of the last digit. -/
  place : Int
  deriving DecidableEq

/-- The decimal as a ratio of natural numbers. -/
def Decimal.ratio (d : Decimal) : Nat × Nat :=
  if 0 ≤ d.place then (d.digits * tenTo d.place.toNat, 1)
  else (d.digits, tenTo (-d.place).toNat)

/-- The power of ten of the first digit of `num / den`, at least `10 ^ -400`. -/
def leadingPlace (num den : Nat) : Int :=
  if den ≤ num then (Nat.toDigits 10 (num / den)).length - 1
  else -((List.range 400).find? (den ≤ num * tenTo ·) |>.getD 400 : Nat)

/-! ## Selection -/

/-- A way to write numbers. -/
structure Style where
  /-- Whether the larger of two equally near decimals is taken, and not the one
      with the even last digit. -/
  tieUp : Bool
  /-- The places of the decimal point, counted from the first digit, for which
      no exponent is written; none if it never is. -/
  positional : Option (Int × Int)
  /-- Whether a whole number shows a fraction. -/
  fraction : Bool

/-- Whether the decimal rounds to step `n`. -/
def Decimal.roundsTo (d : Decimal) (n : Nat) : Bool :=
  let (num, den) := d.ratio
  let doubled := num * twoTo 1075
  let low := (units (n - 1) + units n) * den
  let high := (units n + units (n + 1)) * den
  (low < doubled && doubled < high) || (n % 2 == 0 && (doubled == low || doubled == high))

/-- The decimals next to step `n`, below or at it and above it, whose first
    digit is at `leading` and that have `count` digits. -/
def neighbours (n : Nat) (leading : Int) (count : Nat) : Decimal × Decimal :=
  let place := leading - count + 1
  let below :=
    if 0 ≤ place then units n / (twoTo 1074 * tenTo place.toNat)
    else units n * tenTo (-place).toNat / twoTo 1074
  (⟨below, place⟩, ⟨below + 1, place⟩)

/-- Which of the two neighbours of step `n` is taken if both round to it: the
    nearer one. -/
def Style.pick (style : Style) (n : Nat) (below above : Decimal) : Decimal :=
  let (lowNum, den) := below.ratio
  let (highNum, _) := above.ratio
  let doubled := 2 * units n * den
  let total := (lowNum + highNum) * twoTo 1074
  if doubled < total then below
  else if total < doubled then above
  else if style.tieUp || below.digits % 2 == 1 then above
  else below

/-- The shortest decimal of step `n` with at least `17 - more` digits. -/
def shortestFrom (style : Style) (n : Nat) (leading : Int) : Nat → Decimal
  | 0 => (neighbours n leading 17).1
  | more + 1 =>
    let (below, above) := neighbours n leading (17 - more)
    if below.roundsTo n then
      if above.roundsTo n then style.pick n below above else below
    else if above.roundsTo n then above
    else shortestFrom style n leading more

/-- The shortest decimal of step `n`. -/
def shortest (style : Style) (n : Nat) : Decimal :=
  if n = 0 then ⟨0, 0⟩
  else
    let d := shortestFrom style n (leadingPlace (units n) (twoTo 1074)) 17
    if d.digits = 10 then ⟨1, d.place + 1⟩ else d

/-! ## Writing -/

/-- A decimal with the point `point` places after the start of its digits. -/
def placePoint (style : Style) (digits : List Char) (point : Int) : List Char :=
  if (digits.length : Int) ≤ point then
    digits ++ List.replicate (point - digits.length).toNat '0'
      ++ (if style.fraction then ['.', '0'] else [])
  else if 0 < point then
    digits.take point.toNat ++ '.' :: digits.drop point.toNat
  else '0' :: '.' :: List.replicate (-point).toNat '0' ++ digits

/-- A decimal with one digit before the point and an exponent. -/
def placeExponent (digits : List Char) (exponent : Int) : List Char :=
  digits.take 1 ++ (if digits.length ≤ 1 then [] else '.' :: digits.drop 1)
    ++ 'e' :: (if exponent < 0 then '-' else '+') :: Nat.toDigits 10 exponent.natAbs

/-- The text of a decimal. -/
def Style.writeDecimal (style : Style) (d : Decimal) : List Char :=
  let digits := Nat.toDigits 10 d.digits
  let point := digits.length + d.place
  match style.positional with
  | none => placePoint style digits point
  | some (first, last) =>
    if first ≤ point ∧ point ≤ last then placePoint style digits point
    else placeExponent digits (point - 1)

/-- The text of the finite number with a sign and the magnitude of step `n`. -/
def Style.write (style : Style) (negative : Bool) (n : Nat) : String :=
  String.ofList ((if negative then ['-'] else []) ++ style.writeDecimal (shortest style n))

/-- Numbers never have an exponent, whole numbers have no fraction, and the
    larger of two equally near decimals is shown. -/
def plain : Style := ⟨true, none, false⟩

/-- Numbers have an exponent from `10 ^ 16` on and below `10 ^ -5`, whole numbers
    have a fraction, and the even one of two equally near decimals is shown. -/
def exponential : Style := ⟨false, some (-4, 16), true⟩

/-- The text of a number. -/
def toText : Number → String
  | .nan => "NaN"
  | .infinite negative => if negative then "-inf" else "inf"
  | .finite negative step => plain.write negative step

end TaskQuery.Number
