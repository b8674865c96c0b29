/-
  TaskQuery — the texts that dates are written as.

  A date is written as a day, as a day and a time of day, or as these and an offset from
  universal time.  A time that is missing is midnight, and a missing offset is none.

  * `Date.daysSinceYearZero` counts days by adding up the lengths of years and months;
    `Date.dayNumber_eq`: the number of a date counts them, too;
  * `WrittenDate`, `WrittenTime` and `WrittenOffset` are the parts of the texts, `DateText`
    the three forms and `DateText.text` their text; `DateText.nanoseconds` is the instant as
    one whole number;
  * `DateText.ofText?_text`: every such text is read as its instant;
  * `DateText.compare_instant`: the instants are in the order of these numbers.
-/
import Mathlib.Algebra.GroupWithZero.Nat
import TaskQuery.Proofs.Calendar.Instant

namespace TaskQuery

/-! ## Counting days -/

/-- The number of days in a year. -/
def daysInYear (year : Int) : Nat :=
  if isLeapYear year then 366 else 365

/-- The number of days from the start of year `0` to a date in that year or a later one:
    the lengths of the years before, those of the months before, and the days before. -/
def Date.daysSinceYearZero (d : Date) : Nat :=
  ((List.range d.year.toNat).map fun (year : Nat) => daysInYear year).sum +
    ((List.range (d.month - 1)).map fun month => daysInMonth d.year (month + 1)).sum + (d.day - 1)

theorem daysBeforeYear_eq_sum (years : Nat) :
    daysBeforeYear years = ((List.range years).map fun (year : Nat) => daysInYear year).sum := by
  induction years with
  | zero => rfl
  | succ years ih =>
    rw [Int.natCast_succ, daysBeforeYear_succ, ih, List.range_succ, List.map_append,
      List.sum_append_nat, List.map_singleton, List.sum_singleton, daysInYear]
    split <;> simp

theorem daysBeforeMonth_eq_sum (year : Int) (months : Nat) :
    daysBeforeMonth year (months + 1) =
      ((List.range months).map fun month => daysInMonth year (month + 1)).sum := by
  induction months with
  | zero => rfl
  | succ months ih =>
    rw [daysBeforeMonth_succ year (Nat.le_add_left 1 months), ih, List.range_succ, List.map_append,
      List.sum_append_nat, List.map_singleton, List.sum_singleton]

/-- The number of a date counts the same days, from another day on. -/
theorem Date.dayNumber_eq {d : Date} (hvalid : d.Valid) (hyear : 0 ≤ d.year) :
    d.dayNumber = d.daysSinceYearZero - epoch := by
  obtain ⟨hmonth, -, hday, -⟩ := hvalid
  obtain ⟨m, hm⟩ := Nat.exists_eq_add_of_le' hmonth
  have hyears := daysBeforeYear_eq_sum d.year.toNat
  rw [Int.toNat_of_nonneg hyear] at hyears
  have hmonths := daysBeforeMonth_eq_sum d.year m
  rw [dayNumber, daysSinceYearZero, hm, Nat.add_sub_cancel, hyears, hmonths]
  omega

/-! ## Parts of texts -/

/-- A date in the years 0 to 9999. -/
structure WrittenDate extends Date where
  valid : toDate.Valid
  year_nonneg : 0 ≤ year
  year_lt : year < 10000

/-- A time of day outside of leap seconds, with the digits after its point; without digits
    there is no point. -/
structure WrittenTime where
  hour : Nat
  minute : Nat
  second : Nat
  fraction : List Char
  hour_lt : hour < 24
  minute_lt : minute < 60
  second_lt : second < 60
  isDigit : ∀ c ∈ fraction, c.isDigit
  length_le : fraction.length ≤ 9

/-- An offset from universal time: the letter Z, or hours and minutes ahead or behind. -/
inductive WrittenOffset where
  | universal
  | hours (behind : Bool) (hour minute : Nat) (hour_lt : hour < 24) (minute_lt : minute < 60)

namespace WrittenTime

/-- The start of a day. -/
def midnight : WrittenTime where
  hour := 0
  minute := 0
  second := 0
  fraction := []
  hour_lt := by decide
  minute_lt := by decide
  second_lt := by decide
  isDigit := List.forall_mem_nil _
  length_le := by decide

/-- The number of whole seconds since midnight. -/
def secondOfDay (t : WrittenTime) : Nat :=
  t.hour * 3600 + t.minute * 60 + t.second

/-- The nanoseconds after the whole seconds, of which the digits after the point are the
    first. -/
def nano (t : WrittenTime) : Nat :=
  Nat.ofDigitChars 10 t.fraction 0 * 10 ^ (9 - t.fraction.length)

/-- The text after the seconds. -/
def fractionText (t : WrittenTime) : List Char :=
  if t.fraction = [] then [] else '.' :: t.fraction

theorem ofDigitChars_lt {digits : List Char} (hdigits : ∀ c ∈ digits, c.isDigit) (start : Nat) :
    Nat.ofDigitChars 10 digits start < 10 ^ digits.length * (start + 1) := by
  induction digits generalizing start with
  | nil => simp [Nat.ofDigitChars_nil]
  | cons c digits ih =>
    obtain ⟨hc, hdigits⟩ := List.forall_mem_cons.1 hdigits
    have hrange : c.toNat - '0'.toNat < 10 := by
      have hdigit : 48 ≤ c.toNat ∧ c.toNat ≤ 57 := Char.isDigit_iff_toNat.1 hc
      have hzero : '0'.toNat = 48 := rfl
      omega
    rw [Nat.ofDigitChars_cons, List.length_cons, Nat.pow_succ, Nat.mul_assoc]
    refine Nat.lt_of_lt_of_le (ih hdigits _) (Nat.mul_le_mul_left _ ?_)
    omega

theorem nano_lt (t : WrittenTime) : t.nano < nanosPerSecond := by
  have hdigits := ofDigitChars_lt t.isDigit 0
  rw [Nat.zero_add, Nat.mul_one] at hdigits
  have hnine : 10 ^ t.fraction.length * 10 ^ (9 - t.fraction.length) = nanosPerSecond := by
    rw [← Nat.pow_add, Nat.add_sub_cancel' t.length_le]
    rfl
  rw [← hnine]
  exact Nat.mul_lt_mul_of_pos_right hdigits (Nat.pow_pos (by decide))

end WrittenTime

namespace WrittenOffset

/-- The seconds by which a clock with the offset is ahead. -/
def seconds : WrittenOffset → Int
  | universal => 0
  | hours behind hour minute _ _ =>
    if behind then -(hour * 3600 + minute * 60) else hour * 3600 + minute * 60

/-- The text of an offset. -/
def text : WrittenOffset → List Char
  | universal => ['Z']
  | hours behind hour minute _ _ =>
    (if behind then '-' else '+') ::
      (Instant.padDigits 2 hour ++ ':' :: Instant.padDigits 2 minute)

end WrittenOffset

/-! ## Texts -/

/-- Outside of leap seconds, instants are in the order of their nanoseconds from any second
    on. -/
theorem Instant.compare_eq_nanoseconds {i j : Instant} (hi : i.nano < nanosPerSecond)
    (hj : j.nano < nanosPerSecond) (start : Int) :
    i.compare j = Ord.compare (nanosPerSecond * (i.second + start) + i.nano : Int)
      (nanosPerSecond * (j.second + start) + j.nano) := by
  rw [nanosPerSecond] at hi hj ⊢
  rw [Instant.compare]
  rcases Int.lt_trichotomy i.second j.second with hlt | heq | hgt
  · rw [Int.compare_eq_lt.2 hlt, Int.compare_eq_lt.2 (by omega)]
    rfl
  · rw [heq, Int.compare_eq_eq.2 rfl]
    rcases Nat.lt_trichotomy i.nano j.nano with hlt | heq | hgt
    · rw [Nat.compare_eq_lt.2 hlt, Int.compare_eq_lt.2 (by omega)]
      rfl
    · rw [Nat.compare_eq_eq.2 heq, Int.compare_eq_eq.2 (by omega)]
      rfl
    · rw [Nat.compare_eq_gt.2 hgt, Int.compare_eq_gt.2 (by omega)]
      rfl
  · rw [Int.compare_eq_gt.2 hgt, Int.compare_eq_gt.2 (by omega)]
    rfl

/-- The forms in which dates are written. -/
inductive DateText where
  /-- A day. -/
  | day (date : WrittenDate)
  /-- A day and a time of day. -/
  | timed (date : WrittenDate) (time : WrittenTime)
  /-- A day, a time of day and an offset from universal time. -/
  | zoned (date : WrittenDate) (time : WrittenTime) (offset : WrittenOffset)

namespace DateText

/-- The characters of a date. -/
def chars : DateText → List Char
  | day date => Instant.dateBefore [] date.toDate
  | timed date time =>
    Instant.timestampBefore time.fractionText date.toDate time.hour time.minute time.second
  | zoned date time offset =>
    Instant.timestampBefore (time.fractionText ++ offset.text) date.toDate time.hour time.minute
      time.second

/-- The text of a date. -/
def text (t : DateText) : String :=
  String.ofList t.chars

/-- The day. -/
def date : DateText → WrittenDate
  | day date | timed date _ | zoned date _ _ => date

/-- The time of day; midnight if there is none in the text. -/
def time : DateText → WrittenTime
  | day _ => .midnight
  | timed _ time | zoned _ time _ => time

/-- The offset from universal time in seconds; none if there is none in the text. -/
def offset : DateText → Int
  | day _ | timed _ _ => 0
  | zoned _ _ offset => offset.seconds

/-- The nanoseconds since the start of year `0`. -/
def nanoseconds (t : DateText) : Int :=
  1000000000 * (86400 * t.date.daysSinceYearZero + t.time.secondOfDay - t.offset) + t.time.nano

/-- The instant of a date. -/
def instant (t : DateText) : Instant :=
  ⟨86400 * t.date.dayNumber + t.time.secondOfDay - t.offset, t.time.nano⟩

/-- The nanoseconds are those of the instant, from another second on. -/
theorem nanoseconds_eq (t : DateText) : t.nanoseconds =
    nanosPerSecond * (t.instant.second + 86400 * Date.epoch) + t.instant.nano := by
  rw [nanoseconds, instant, Date.dayNumber_eq t.date.valid t.date.year_nonneg, nanosPerSecond]
  dsimp only
  omega

/-- **The instants are in the order of the nanoseconds** since the start of year `0`. -/
theorem compare_instant (a b : DateText) :
    a.instant.compare b.instant = compare a.nanoseconds b.nanoseconds := by
  rw [nanoseconds_eq, nanoseconds_eq]
  exact Instant.compare_eq_nanoseconds a.time.nano_lt b.time.nano_lt _

end DateText

/-! ## Reading -/

namespace Instant

variable {width n : Nat} {rest tail : List Char}

/-- Digits in front of anything are read whole. -/
theorem number?_padDigits (hwidth : 0 < width) (hn : n < tenTo width) :
    number? width (padDigits width n ++ rest) = some (n, rest) := by
  obtain ⟨hlength, hdigits, hvalue⟩ := padDigits_spec hwidth hn
  have hne : padDigits width n ≠ [] := by
    rw [← List.length_pos_iff, hlength]
    exact hwidth
  have htake : (padDigits width n ++ rest).take width = padDigits width n := by
    rw [List.take_append_of_le_length (Nat.le_of_eq hlength.symm),
      List.take_of_length_le (Nat.le_of_eq hlength)]
  rw [number?, htake, List.takeWhile_eq_self_iff.2 hdigits, if_neg hne, hvalue, List.drop_left]

theorem trimStart_padDigits (hwidth : 0 < width) (hn : n < tenTo width) :
    Text.trimStart (padDigits width n ++ rest) = padDigits width n ++ rest := by
  obtain ⟨hlength, hdigits, -⟩ := padDigits_spec hwidth hn
  cases hdigit : padDigits width n with
  | nil =>
    rw [hdigit, List.length_nil] at hlength
    omega
  | cons c digits =>
    have hc : c.isDigit := hdigits c (by rw [hdigit]; exact List.mem_cons_self)
    rw [List.cons_append, Text.trimStart, List.dropWhile_cons_of_neg]
    simp [Text.isBlank_of_isDigit hc]

theorem spacedNumber?_padDigits (hn : n < 100) :
    spacedNumber? 2 (padDigits 2 n ++ rest) = some (n, rest) := by
  rw [spacedNumber?, trimStart_padDigits (by decide) hn, number?_padDigits (by decide) hn]

theorem year?_padDigits (hn : n < 10000) :
    year? (padDigits 4 n ++ rest) = some ((n : Int), rest) := by
  have hnumber : number? 4 (padDigits 4 n ++ rest) = some (n, rest) :=
    number?_padDigits (by decide) hn
  obtain ⟨hlength, hdigits, -⟩ := padDigits_spec (by decide : 0 < 4) hn
  rw [year?, trimStart_padDigits (by decide) hn]
  cases hdigit : padDigits 4 n with
  | nil => simp [hdigit] at hlength
  | cons c digits =>
    have hc : c.isDigit := hdigits c (by rw [hdigit]; exact List.mem_cons_self)
    rw [hdigit] at hnumber
    rw [List.cons_append] at hnumber ⊢
    split
    · rename_i heq
      cases heq
      cases hc
    · rename_i heq
      cases heq
      cases hc
    · rw [hnumber]
      rfl

theorem looseDate?_dateBefore (date : WrittenDate) :
    looseDate? (dateBefore tail date.toDate) = some (date.toDate, tail) := by
  obtain ⟨-, hmonth, -, hday⟩ := date.valid
  have hlast := daysInMonth_le date.year date.month
  have hlt := date.year_lt
  have hyear : ((date.year.toNat : Nat) : Int) = date.year := Int.toNat_of_nonneg date.year_nonneg
  rw [dateBefore, looseDate?]
  refine (bind_of_eq_some (year?_padDigits (by omega))).trans ?_
  refine (bind_of_eq_some (expect?_self '-' _)).trans ?_
  refine (bind_of_eq_some (spacedNumber?_padDigits (by omega))).trans ?_
  refine (bind_of_eq_some (expect?_self '-' _)).trans ?_
  refine (bind_of_eq_some (spacedNumber?_padDigits (by omega))).trans ?_
  dsimp only
  rw [hyear]

/-- No part of the two that are missing after a day is read. -/
theorem ofOffsetText?_dateBefore (date : WrittenDate) :
    ofOffsetText? (dateBefore [] date.toDate) = none := by
  obtain ⟨-, hmonth, -, hday⟩ := date.valid
  have hlast := daysInMonth_le date.year date.month
  have hlt := date.year_lt
  rw [dateBefore, padDigits_four, List.append_assoc, ofOffsetText?]
  refine (bind_of_eq_some (twoDigits?_padDigits (by omega))).trans ?_
  refine (bind_of_eq_some (twoDigits?_padDigits (by omega))).trans ?_
  refine (bind_of_eq_some (expect?_self '-' _)).trans ?_
  refine (bind_of_eq_some (twoDigits?_padDigits (by omega))).trans ?_
  refine (bind_of_eq_some (expect?_self '-' _)).trans ?_
  exact bind_of_eq_some (twoDigits?_padDigits (by omega))

theorem ofPlainText?_dateBefore (date : WrittenDate) :
    ofPlainText? (dateBefore [] date.toDate) = none :=
  bind_of_eq_some (looseDate?_dateBefore date)

theorem ofDateText?_dateBefore (date : WrittenDate) :
    ofDateText? (dateBefore [] date.toDate) = ofParts? date.toDate ⟨0, 0, 0, 0⟩ 0 :=
  (bind_of_eq_some (looseDate?_dateBefore date)).trans (if_pos rfl)

theorem ofPlainText?_timestampBefore (date : WrittenDate) (time : WrittenTime)
    (hfraction : fraction? tail = some (n, [])) :
    ofPlainText? (timestampBefore tail date.toDate time.hour time.minute time.second) =
      ofParts? date.toDate ⟨time.hour, time.minute, time.second, n⟩ 0 := by
  have hhour := time.hour_lt
  have hminute := time.minute_lt
  have hsecond := time.second_lt
  rw [timestampBefore, ofPlainText?]
  refine (bind_of_eq_some (looseDate?_dateBefore date)).trans ?_
  refine (bind_of_eq_some (expect?_self 'T' _)).trans ?_
  refine (bind_of_eq_some (spacedNumber?_padDigits (by omega))).trans ?_
  refine (bind_of_eq_some (expect?_self ':' _)).trans ?_
  refine (bind_of_eq_some (spacedNumber?_padDigits (by omega))).trans ?_
  refine (bind_of_eq_some (expect?_self ':' _)).trans ?_
  refine (bind_of_eq_some (spacedNumber?_padDigits (by omega))).trans ?_
  exact (bind_of_eq_some hfraction).trans (if_pos rfl)

/-- The fraction ends where no digit follows. -/
theorem fraction?_fractionText (time : WrittenTime)
    (hrest : ∀ c ∈ rest.head?, c ≠ '.' ∧ c.isDigit = false) :
    fraction? (time.fractionText ++ rest) = some (time.nano, rest) := by
  obtain ⟨htake, hdrop⟩ :=
    Text.takeWhile_append_stop time.isDigit fun c hc => (hrest c hc).2
  rw [WrittenTime.fractionText, WrittenTime.nano]
  split
  · rename_i hnone
    rw [hnone, List.nil_append]
    unfold fraction?
    split
    · exact absurd rfl (hrest '.' rfl).1
    · rfl
  · rename_i hsome
    rw [List.cons_append, fraction?, htake, hdrop]
    dsimp only
    rw [if_neg hsome, List.take_of_length_le time.length_le, digitsValue_eq]
    rfl

theorem offset?_text (offset : WrittenOffset) :
    offset? offset.text = some (offset.seconds, []) := by
  cases offset with
  | universal => rfl
  | hours behind hour minute hour_lt minute_lt =>
    have hhours : twoDigits? (padDigits 2 hour ++ ':' :: padDigits 2 minute) =
        some (hour, ':' :: padDigits 2 minute) :=
      twoDigits?_padDigits (by omega)
    have hminutes : twoDigits? (padDigits 2 minute ++ []) = some (minute, []) :=
      twoDigits?_padDigits (by omega)
    rw [List.append_nil] at hminutes
    have hrange : (hour * 3600 + minute * 60 : Int) < 86400 := by omega
    cases behind <;>
      simp [WrittenOffset.text, WrittenOffset.seconds, offset?, hhours, expect?_self, hminutes,
        minute_lt, hrange]

/-- The parts of a date are in their ranges. -/
theorem ofParts?_written (date : WrittenDate) (time : WrittenTime) (offset : Int) :
    ofParts? date.toDate ⟨time.hour, time.minute, time.second, time.nano⟩ offset =
      some ⟨86400 * date.dayNumber + time.secondOfDay - offset, time.nano⟩ := by
  have hyear := date.year_nonneg
  have hyear' := date.year_lt
  have hvalid : TimeOfDay.Valid ⟨time.hour, time.minute, time.second, time.nano⟩ :=
    ⟨time.hour_lt, time.minute_lt, Nat.le_of_lt time.second_lt, time.nano_lt⟩
  have hleap : time.second / 60 = 0 := Nat.div_eq_of_lt time.second_lt
  rw [ofParts?, if_pos ⟨date.valid, ⟨by omega, by omega⟩, hvalid⟩]
  simp only [hleap, Nat.sub_zero, Nat.zero_mul, Nat.add_zero, WrittenTime.secondOfDay]
  congr 2
  omega

end Instant

/-- **A date is read as its instant**, in each of its forms. -/
theorem DateText.ofText?_text (t : DateText) : Instant.ofText? t.text = some t.instant := by
  rw [Instant.ofText?, text, String.toList_ofList]
  cases t with
  | day date =>
    rw [chars, Instant.ofOffsetText?_dateBefore, Instant.ofPlainText?_dateBefore,
      Instant.ofDateText?_dateBefore]
    exact Instant.ofParts?_written date .midnight 0
  | timed date time =>
    have hfraction : Instant.fraction? (time.fractionText ++ []) = some (time.nano, []) :=
      Instant.fraction?_fractionText time (by simp)
    rw [List.append_nil] at hfraction
    rw [chars, Instant.ofOffsetText?_timestampBefore date.valid date.year_nonneg date.year_lt
      time.hour_lt time.minute_lt (Nat.le_of_lt time.second_lt) hfraction,
      Instant.ofPlainText?_timestampBefore date time hfraction, Instant.ofParts?_written]
    rfl
  | zoned date time offset =>
    have hhead : ∀ c ∈ offset.text.head?, c ≠ '.' ∧ c.isDigit = false := by
      cases offset with
      | universal => simp [WrittenOffset.text]
      | hours behind => cases behind <;> simp [WrittenOffset.text]
    rw [chars, Instant.ofOffsetText?_timestampBefore date.valid date.year_nonneg date.year_lt
      time.hour_lt time.minute_lt (Nat.le_of_lt time.second_lt)
      (Instant.fraction?_fractionText time hhead),
      Instant.bind_of_eq_some (Instant.offset?_text offset)]
    dsimp only
    rw [if_pos rfl, Instant.ofParts?_written]
    rfl

end TaskQuery
