/-
  TaskQuery — dates of the proleptic Gregorian calendar.

  Days are counted from 1 January 1970, which is day `0`.

  * `Date` is a year, a month and a day of the month; `Date.Valid` says that
    they name a day;
  * `Date.dayNumber` is the number of a date, and `Date.ofDayNumber` the date of
    a day: the days before a year have a closed form, and the year of a day is
    the one that this form points to or the next;
  * `daysBeforeYear_succ`: the closed form adds up the lengths of the years.
-/

namespace TaskQuery

/-- A year, a month of the year and a day of the month, from one. -/
structure Date where
  /-- The year; year `0` is the one before year `1`. -/
  year : Int
  /-- The month, January being `1`. -/
  month : Nat
  /-- The day of the month. -/
  day : Nat
  deriving DecidableEq

/-! ## Lengths of years and months -/

/-- Whether a year has a leap day. -/
def isLeapYear (year : Int) : Bool :=
  year % 4 == 0 && (year % 100 != 0 || year % 400 == 0)

/-- The number of days in a month. -/
def daysInMonth (year : Int) : Nat → Nat
  | 2 => if isLeapYear year then 29 else 28
  | 4 | 6 | 9 | 11 => 30
  | _ => 31

/-- The number of days in the months of a year before a month. -/
def daysBeforeMonth (year : Int) (month : Nat) : Nat :=
  (List.range (month - 1)).foldl (fun days m => days + daysInMonth year (m + 1)) 0

/-- The number of days from the start of year `0` to the start of a year,
    negative for the years before. -/
def daysBeforeYear (year : Int) : Int :=
  365 * year + (year + 3) / 4 - (year + 99) / 100 + (year + 399) / 400

/-- A year has 365 days, and a leap year one more. -/
theorem daysBeforeYear_succ (year : Int) :
    daysBeforeYear (year + 1) = daysBeforeYear year + (if isLeapYear year then 366 else 365) := by
  unfold daysBeforeYear isLeapYear
  split <;> rename_i h <;>
    simp only [Bool.and_eq_true, Bool.or_eq_true, beq_iff_eq, bne_iff_ne, ne_eq] at h <;>
    omega

/-! ## Day numbers -/

namespace Date

/-- The day `0` counted from the start of year `0`. -/
def epoch : Int := daysBeforeYear 1970

/-- A date names a day of the calendar. -/
def Valid (d : Date) : Prop :=
  1 ≤ d.month ∧ d.month ≤ 12 ∧ 1 ≤ d.day ∧ d.day ≤ daysInMonth d.year d.month

instance (d : Date) : Decidable d.Valid :=
  inferInstanceAs (Decidable (_ ∧ _ ∧ _ ∧ _))

/-- The number of a date, in days since 1 January 1970. -/
def dayNumber (d : Date) : Int :=
  daysBeforeYear d.year + daysBeforeMonth d.year d.month + d.day - 1 - epoch

/-- The year in which the day lies that is `days` days after the start of year
    `0`. -/
def yearOfDay (days : Int) : Int :=
  let guess := (days - 1) * 400 / 146097
  if daysBeforeYear (guess + 1) ≤ days then guess + 1 else guess

/-- The last of the months up to `months` that starts at or before the day `day`
    of the year, counted from `0`. -/
def monthOfDay (year : Int) (day : Nat) : Nat → Nat
  | 0 => 1
  | months + 1 =>
    if daysBeforeMonth year (months + 1) ≤ day then months + 1 else monthOfDay year day months

/-- The date of the day with a number. -/
def ofDayNumber (n : Int) : Date :=
  let days := n + epoch
  let year := yearOfDay days
  let day := (days - daysBeforeYear year).toNat
  let month := monthOfDay year day 12
  ⟨year, month, day - daysBeforeMonth year month + 1⟩

/-! ## Writing -/

/-- The three-letter name of a month. -/
def monthName (month : Nat) : String :=
  ["Jan", "Feb", "Mar", "Apr", "May", "Jun", "Jul", "Aug", "Sep", "Oct", "Nov",
    "Dec"].getD (month - 1) ""

end Date

end TaskQuery
