/-
  TaskQuery — instants of universal time, and their days in other zones.

  An instant is a number of seconds since the start of 1970 and a number of
  nanoseconds on top; nanoseconds beyond a second lie in a leap second, which
  belongs to the second before it.

  * `Instant.compare` orders instants by seconds, then by nanoseconds;
  * `Instant.dayNumber` is the day an instant lies in, in universal time;
    `Zone.dayNumber` is the day in a time zone, and `Today` a current day there;
  * `Instant.toText` writes an instant with milliseconds, rounded down;
  * `Instant.compare_swap`: comparing the other way round reverses the order.
-/
import TaskQuery.Calendar.Date

namespace TaskQuery

/-- The number of nanoseconds in a second. -/
def nanosPerSecond : Nat := 1000000000

/-- An instant of universal time. -/
structure Instant where
  /-- The seconds since the start of 1970, leap seconds not counted. -/
  second : Int
  /-- The nanoseconds since then; beyond a second within a leap second. -/
  nano : Nat
  deriving DecidableEq

namespace Instant

/-! ## Order -/

/-- The order of two instants. -/
def compare (a b : Instant) : Ordering :=
  (Ord.compare a.second b.second).then (Ord.compare a.nano b.nano)

/-- Comparing the other way round reverses the order. -/
theorem compare_swap (a b : Instant) : b.compare a = (a.compare b).swap := by
  rw [compare, compare, Ordering.swap_then, Int.compare_swap, Nat.compare_swap]

/-! ## Days -/

/-- The number of the day in which an instant lies, in universal time. -/
def dayNumber (i : Instant) : Int :=
  i.second / 86400

/-! ## Writing -/

/-- The digits of a number, with zeros in front up to a width. -/
def padDigits (width n : Nat) : List Char :=
  let digits := Nat.toDigits 10 n
  List.replicate (width - digits.length) '0' ++ digits

/-- The digits of a year: at least four of them, with a sign outside the years
    `0` to `9999`. -/
def yearDigits (year : Int) : List Char :=
  (if year < 0 then ['-'] else if 9999 < year then ['+'] else []) ++ padDigits 4 year.natAbs

/-- The text of an instant: date, time of day with milliseconds, and the mark of
    universal time. -/
def toText (i : Instant) : String :=
  let date := Date.ofDayNumber i.dayNumber
  let time := (i.second % 86400).toNat
  let leap := i.nano / nanosPerSecond
  String.ofList <|
    yearDigits date.year ++ '-' :: padDigits 2 date.month ++ '-' :: padDigits 2 date.day
      ++ 'T' :: padDigits 2 (time / 3600) ++ ':' :: padDigits 2 (time / 60 % 60)
      ++ ':' :: padDigits 2 (time % 60 + leap)
      ++ '.' :: padDigits 3 (i.nano % nanosPerSecond / 1000000) ++ ['Z']

end Instant

/-! ## Time zones -/

/-- A time zone.  Its clocks may be changed from time to time. -/
structure Zone where
  /-- By how many seconds the clocks are ahead of universal time at an instant. -/
  ahead : Instant → Int

namespace Zone

/-- Universal time. -/
def universal : Zone where
  ahead _ := 0

/-- The number of the day in which an instant lies, by the clocks of a zone. -/
def dayNumber (zone : Zone) (i : Instant) : Int :=
  (i.second + zone.ahead i) / 86400

end Zone

/-- A current day, and the zone in which days are told. -/
structure Today where
  /-- The number of the day. -/
  day : Int
  /-- The zone. -/
  zone : Zone := .universal

/-- The number of a day alone is meant in universal time. -/
instance : Coe Int Today where
  coe day := { day }

/-- The day in which an instant lies in a zone, as the current one. -/
def Zone.today (zone : Zone) (now : Instant) : Today where
  day := zone.dayNumber now
  zone := zone

end TaskQuery
