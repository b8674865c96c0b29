/-
  TaskQuery — instants, in order and as text.

  The text of an instant in the years 0 to 9999 is read back as the same instant, rounded
  down to the millisecond.

  * `a < b` and `a ≤ b`: instants in order; `Instant.compare_isLT` and its like:
    `Instant.compare` goes by this order;
  * `padDigits_spec`: digits with zeros in front are as many as the width, and their value
    is the number; `twoDigits?_padDigits` and `fraction?_padDigits` read them;
  * `Instant.timestampText date time`: the text of a date and a time of day;
    `Instant.ofOffsetText?_timestampText`: it is read back, and
    `Instant.ofOffsetText?_timestampBefore`: so are other texts that begin as it does;
  * `Instant.ofText?_toText`: the text of an instant is read back.
-/
import TaskQuery.Calendar.Reading
import TaskQuery.Proofs.Calendar.DayNumber
import TaskQuery.Proofs.Lists

namespace TaskQuery.Instant

/-! ## Order -/

/-- An instant is earlier than another; a leap second is earlier than the second after
    it. -/
instance : LT Instant where
  lt a b := a.second < b.second ∨ a.second = b.second ∧ a.nano < b.nano

instance : LE Instant where
  le a b := a.second < b.second ∨ a.second = b.second ∧ a.nano ≤ b.nano

instance (a b : Instant) : Decidable (a < b) :=
  inferInstanceAs (Decidable (_ ∨ _))

instance (a b : Instant) : Decidable (a ≤ b) :=
  inferInstanceAs (Decidable (_ ∨ _))

variable {a b i : Instant}

theorem lt_iff : a < b ↔ a.second < b.second ∨ a.second = b.second ∧ a.nano < b.nano := Iff.rfl

theorem le_iff : a ≤ b ↔ a.second < b.second ∨ a.second = b.second ∧ a.nano ≤ b.nano := Iff.rfl

theorem not_lt : ¬ a < b ↔ b ≤ a := by
  rw [lt_iff, le_iff]
  omega

theorem compare_eq_lt : a.compare b = .lt ↔ a < b := by
  rw [compare, Ordering.then_eq_lt, Int.compare_eq_lt, Int.compare_eq_eq, Nat.compare_eq_lt, lt_iff]

theorem compare_isLT : (a.compare b).isLT = decide (a < b) := by
  simp only [← compare_eq_lt]
  cases a.compare b <;> rfl

theorem compare_isGT : (a.compare b).isGT = decide (b < a) := by
  rw [compare_swap, Ordering.isGT_swap, compare_isLT]

theorem compare_isGE : (a.compare b).isGE = decide (b ≤ a) := by
  simp only [← not_lt, ← compare_eq_lt]
  cases a.compare b <;> rfl

theorem compare_isLE : (a.compare b).isLE = decide (a ≤ b) := by
  rw [compare_swap, Ordering.isLE_swap, compare_isGE]

/-! ## Digits -/

section
variable {width n : Nat} {rest : List Char}

theorem digitsValue_eq (digits : List Char) : Number.digitsValue digits = Nat.ofDigitChars 10 digits 0 := by
  simp only [Number.digitsValue, Nat.ofDigitChars, Nat.mul_comm]

theorem isDigit_of_mem_padDigits {c : Char} (h : c ∈ padDigits width n) : c.isDigit := by
  rcases List.mem_append.1 h with h | h
  · rw [List.eq_of_mem_replicate h]
    decide
  · exact Nat.isDigit_of_mem_toDigits (by decide) (by decide) h

/-- Digits with zeros in front: as many as the width, with the number as their value. -/
theorem padDigits_spec (hwidth : 0 < width) (hn : n < tenTo width) :
    (padDigits width n).length = width ∧ (∀ c ∈ padDigits width n, c.isDigit) ∧
      Number.digitsValue (padDigits width n) = n := by
  have hlength := (Nat.length_toDigits_le_iff (by decide : 1 < 10) hwidth).2 hn
  refine ⟨?_, fun c hc => isDigit_of_mem_padDigits hc, ?_⟩
  · simp only [padDigits, List.length_append, List.length_replicate]
    omega
  · rw [digitsValue_eq, padDigits, Nat.ofDigitChars_append, Nat.ofDigitChars_replicate_zero,
      Nat.mul_zero, Nat.ofDigitChars_toDigits (by decide) (by decide)]

theorem padDigits_succ (hwidth : 0 < width) (n : Nat) :
    padDigits (width + 1) n = padDigits width (n / 10) ++ [Nat.digitChar (n % 10)] := by
  have hpos : 0 < (Nat.toDigits 10 (n / 10)).length := Nat.length_toDigits_pos
  rcases Nat.lt_or_ge n 10 with hn | hn
  · obtain ⟨w, rfl⟩ := Nat.exists_eq_add_of_le' hwidth
    rw [Nat.div_eq_of_lt hn, Nat.mod_eq_of_lt hn, padDigits, padDigits, Nat.toDigits_of_lt_base hn,
      Nat.toDigits_of_lt_base (by decide)]
    simp [List.replicate_succ']
  · rw [padDigits, padDigits, Nat.toDigits_of_base_le (by decide) hn]
    simp

/-- The first two digits of four are the hundreds. -/
theorem padDigits_four (n : Nat) : padDigits 4 n = padDigits 2 (n / 100) ++ padDigits 2 (n % 100) := by
  have hone (n : Nat) (hn : n < 10) : padDigits 1 n = [Nat.digitChar n] := by
    simp [padDigits, Nat.toDigits_of_lt_base hn]
  rw [padDigits_succ (by decide), padDigits_succ (by decide), padDigits_succ (by decide) (n % 100),
    hone _ (by omega), Nat.div_div_eq_div_mul, List.append_assoc]
  have htens : n % 100 / 10 = n / 10 % 10 := by omega
  have hones : n % 100 % 10 = n % 10 := by omega
  rw [htens, hones]

theorem twoDigits?_padDigits (hn : n < 100) : twoDigits? (padDigits 2 n ++ rest) = some (n, rest) := by
  obtain ⟨hlength, hdigits, hvalue⟩ := padDigits_spec (by decide : 0 < 2) hn
  match hpair : padDigits 2 n, hlength with
  | [a, b], _ =>
    rw [hpair] at hdigits hvalue
    simp only [List.forall_mem_cons] at hdigits
    simp [twoDigits?, hdigits.1, hdigits.2.1, hvalue]

theorem fraction?_padDigits (hn : n < 1000) :
    fraction? ('.' :: (padDigits 3 n ++ ['Z'])) = some (n * 1000000, ['Z']) := by
  obtain ⟨hlength, hdigits, hvalue⟩ := padDigits_spec (by decide : 0 < 3) hn
  have hne : padDigits 3 n ≠ [] := by
    intro hnil
    simp [hnil] at hlength
  have hstop : ∀ c ∈ ['Z'].head?, c.isDigit = false := by simp
  obtain ⟨htake, hdrop⟩ := Text.takeWhile_append_stop hdigits hstop
  have hcounted : (padDigits 3 n).take 9 = padDigits 3 n := List.take_of_length_le (by omega)
  simp only [fraction?, htake, hdrop, hne, hcounted, hvalue, hlength, if_false]
  rfl

end

/-! ## Timestamps -/

theorem bind_of_eq_some {α β : Type} {x : Option α} {a : α} {k : α → Option β} (h : x = some a) :
    (x >>= k) = k a := by
  rw [h]
  rfl

@[simp] theorem expect?_self (c : Char) (rest : List Char) : expect? c (c :: rest) = some rest :=
  if_pos rfl

@[simp] theorem offset?_utc (rest : List Char) : offset? ('Z' :: rest) = some (0, rest) := rfl

/-- The text of a date in the years 0 to 9999, before the text `tail`. -/
def dateBefore (tail : List Char) (date : Date) : List Char :=
  padDigits 4 date.year.toNat ++ '-' :: (padDigits 2 date.month ++ '-' ::
    (padDigits 2 date.day ++ tail))

/-- The text of a date in the years 0 to 9999 and of a time of day in whole seconds, before
    the text `tail`. -/
def timestampBefore (tail : List Char) (date : Date) (hour minute second : Nat) : List Char :=
  dateBefore ('T' :: (padDigits 2 hour ++ ':' :: (padDigits 2 minute ++ ':' ::
    (padDigits 2 second ++ tail)))) date

/-- The text of a date in the years 0 to 9999 and a time of day. -/
def timestampText (date : Date) (time : TimeOfDay) : List Char :=
  timestampBefore ('.' :: (padDigits 3 (time.nano / 1000000) ++ ['Z'])) date time.hour time.minute
    time.second

/-- The parts of a timestamp are read back, up to its offset. -/
theorem ofOffsetText?_timestampBefore {date : Date} {tail rest : List Char}
    {hour minute second nano : Nat} (hdate : date.Valid) (hfrom : 0 ≤ date.year)
    (hto : date.year < 10000) (hhour : hour < 24) (hminute : minute < 60) (hsecond : second ≤ 60)
    (hfraction : fraction? tail = some (nano, rest)) :
    ofOffsetText? (timestampBefore tail date hour minute second) = (do
      let (offset, rest) ← offset? rest
      if rest = [] then ofParts? date ⟨hour, minute, second, nano⟩ offset else none) := by
  obtain ⟨-, hmonth, -, hday⟩ := hdate
  have hlast := daysInMonth_le date.year date.month
  have hyear : ((date.year.toNat / 100 : Nat) : Int) * 100 + (date.year.toNat % 100 : Nat) = date.year := by
    omega
  rw [timestampBefore, dateBefore, padDigits_four, List.append_assoc, ofOffsetText?]
  -- the parts are read one after another: first the date
  refine (bind_of_eq_some (twoDigits?_padDigits (by omega))).trans ?_
  refine (bind_of_eq_some (twoDigits?_padDigits (by omega))).trans ?_
  refine (bind_of_eq_some (expect?_self '-' _)).trans ?_
  refine (bind_of_eq_some (twoDigits?_padDigits (by omega))).trans ?_
  refine (bind_of_eq_some (expect?_self '-' _)).trans ?_
  refine (bind_of_eq_some (twoDigits?_padDigits (by omega))).trans ?_
  -- then the time of day
  refine (bind_of_eq_some (congrArg (· <|> _) (expect?_self 'T' _))).trans ?_
  refine (bind_of_eq_some (twoDigits?_padDigits (by omega))).trans ?_
  refine (bind_of_eq_some (expect?_self ':' _)).trans ?_
  refine (bind_of_eq_some (twoDigits?_padDigits (by omega))).trans ?_
  refine (bind_of_eq_some (expect?_self ':' _)).trans ?_
  refine (bind_of_eq_some (twoDigits?_padDigits (by omega))).trans ?_
  refine (bind_of_eq_some hfraction).trans ?_
  dsimp only
  rw [hyear]

/-- The parts of a timestamp are read back. -/
theorem ofOffsetText?_timestampText {date : Date} {time : TimeOfDay} (hdate : date.Valid)
    (hfrom : 0 ≤ date.year) (hto : date.year < 10000) (htime : time.Valid) :
    ofOffsetText? (timestampText date time) =
      ofParts? date { time with nano := time.nano / 1000000 * 1000000 } 0 := by
  obtain ⟨hhour, hminute, hsecond, hnano⟩ := htime
  rw [nanosPerSecond] at hnano
  rw [timestampText, ofOffsetText?_timestampBefore hdate hfrom hto hhour hminute hsecond
    (fraction?_padDigits (by omega))]
  exact (bind_of_eq_some (offset?_utc [])).trans (if_pos rfl)

/-! ## Instants -/

/-- The instant without what is less than a millisecond. -/
def floorMilli (i : Instant) : Instant :=
  ⟨i.second, i.nano / 1000000 * 1000000⟩

/-- The time of day of an instant. -/
def timeOfDay (i : Instant) : TimeOfDay :=
  let time := (i.second % 86400).toNat
  ⟨time / 3600, time / 60 % 60, time % 60, i.nano⟩

/-- The instant lies in the years 0 to 9999. -/
def InFourDigitYears (i : Instant) : Prop :=
  Date.dayNumber ⟨0, 1, 1⟩ ≤ i.dayNumber ∧ i.dayNumber < Date.dayNumber ⟨10000, 1, 1⟩

instance (i : Instant) : Decidable i.InFourDigitYears :=
  inferInstanceAs (Decidable (_ ∧ _))

theorem InFourDigitYears.year_mem (h : i.InFourDigitYears) :
    0 ≤ (Date.ofDayNumber i.dayNumber).year ∧ (Date.ofDayNumber i.dayNumber).year < 10000 := by
  refine ⟨Int.not_lt.1 fun hlt => ?_, Date.year_ofDayNumber_lt_iff.2 h.2⟩
  exact Int.not_lt.2 h.1 (Date.year_ofDayNumber_lt_iff.1 hlt)

theorem valid_timeOfDay (hnano : i.nano < nanosPerSecond) : i.timeOfDay.Valid := by
  simp only [TimeOfDay.Valid, timeOfDay]
  omega

theorem toList_toText (hyears : i.InFourDigitYears) (hnano : i.nano < nanosPerSecond) :
    i.toText.toList = timestampText (Date.ofDayNumber i.dayNumber) i.timeOfDay := by
  obtain ⟨hfrom, hto⟩ := hyears.year_mem
  have hyear : yearDigits (Date.ofDayNumber i.dayNumber).year =
      padDigits 4 (Date.ofDayNumber i.dayNumber).year.toNat := by
    rw [yearDigits, if_neg (by omega), if_neg (by omega), List.nil_append]
    congr 1
    omega
  simp [toText, timestampText, timestampBefore, dateBefore, timeOfDay, hyear, Nat.div_eq_of_lt hnano, Nat.mod_eq_of_lt hnano]

/-- The day of an instant and its time of day are the instant. -/
theorem ofParts?_timeOfDay {date : Date} (hdate : date.Valid) (hyear : YearInRange date.year)
    (hday : date.dayNumber = i.dayNumber) (hnano : i.nano < nanosPerSecond) :
    ofParts? date { i.timeOfDay with nano := i.nano / 1000000 * 1000000 } 0 = some i.floorMilli := by
  have hvalid : TimeOfDay.Valid { i.timeOfDay with nano := i.nano / 1000000 * 1000000 } := by
    obtain ⟨hhour, hminute, hsecond, -⟩ := valid_timeOfDay hnano
    refine ⟨hhour, hminute, hsecond, ?_⟩
    dsimp only
    omega
  have hleap : (i.second % 86400).toNat % 60 / 60 = 0 := by omega
  have hsecond : i.dayNumber * 86400 + ((i.second % 86400).toNat / 3600 : Nat) * 3600 +
      ((i.second % 86400).toNat / 60 % 60 : Nat) * 60 + ((i.second % 86400).toNat % 60 : Nat) =
      i.second := by
    rw [dayNumber]
    omega
  rw [ofParts?, if_pos ⟨hdate, hyear, hvalid⟩, hday]
  simp only [timeOfDay, hleap, Nat.sub_zero, Int.sub_zero, Nat.zero_mul, Nat.add_zero, hsecond]
  rfl

/-- **The text of an instant is read back**, without what is less than a millisecond. -/
theorem ofText?_toText (hyears : i.InFourDigitYears) (hnano : i.nano < nanosPerSecond) :
    ofText? i.toText = some i.floorMilli := by
  obtain ⟨hfrom, hto⟩ := hyears.year_mem
  have hdate := Date.valid_ofDayNumber i.dayNumber
  have hrange : YearInRange (Date.ofDayNumber i.dayNumber).year := ⟨by omega, by omega⟩
  have hread : ofOffsetText? i.toText.toList = some i.floorMilli := by
    rw [toList_toText hyears hnano,
      ofOffsetText?_timestampText hdate hfrom hto (valid_timeOfDay hnano)]
    exact ofParts?_timeOfDay hdate hrange (Date.dayNumber_ofDayNumber i.dayNumber) hnano
  rw [ofText?, hread]
  rfl

end TaskQuery.Instant
