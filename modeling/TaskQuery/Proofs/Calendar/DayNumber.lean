/-
  TaskQuery — dates and day numbers.

  Every day has a date, and the date has the number of the day.

  * `daysBeforeMonth_succ` and `daysBeforeMonth_thirteen`: the lengths of the months
    add up to the length of the year;
  * `Date.yearOfDay_spec` and `Date.monthOfDay_spec`: a day lies in the year and in the
    month that are found for it;
  * `Date.valid_ofDayNumber` and `Date.dayNumber_ofDayNumber`: the date of a day names a
    day, and it is that day;
  * `Date.year_ofDayNumber_lt_iff`: the years before a year are those of the days before
    its start.
-/
import TaskQuery.Calendar.Date

namespace TaskQuery

/-! ## Months -/

theorem daysBeforeMonth_succ (year : Int) {month : Nat} (h : 1 ≤ month) :
    daysBeforeMonth year (month + 1) = daysBeforeMonth year month + daysInMonth year month := by
  obtain ⟨m, rfl⟩ := Nat.exists_eq_add_of_le' h
  simp only [daysBeforeMonth, Nat.add_sub_cancel, List.range_succ, List.foldl_append,
    List.foldl_cons, List.foldl_nil]

theorem daysBeforeMonth_one (year : Int) : daysBeforeMonth year 1 = 0 := rfl

/-- The months add up to the year. -/
theorem daysBeforeMonth_thirteen (year : Int) :
    daysBeforeMonth year 13 = if isLeapYear year then 366 else 365 := by
  simp only [daysBeforeMonth, daysInMonth, Nat.reduceSub, List.range, List.range.loop,
    List.foldl_cons, List.foldl_nil, Nat.reduceAdd]
  split <;> rfl

theorem daysInMonth_le (year : Int) (month : Nat) : daysInMonth year month ≤ 31 := by
  unfold daysInMonth
  split
  · split <;> decide
  all_goals decide

theorem daysBeforeYear_succ_eq (year : Int) :
    daysBeforeYear (year + 1) = daysBeforeYear year + daysBeforeMonth year 13 := by
  rw [daysBeforeYear_succ, daysBeforeMonth_thirteen]
  split <;> rfl

theorem daysBeforeYear_mono {a b : Int} (h : a ≤ b) : daysBeforeYear a ≤ daysBeforeYear b := by
  unfold daysBeforeYear
  omega

namespace Date

/-! ## Days -/

/-- A day lies in its year. -/
theorem yearOfDay_spec (days : Int) :
    daysBeforeYear (yearOfDay days) ≤ days ∧ days < daysBeforeYear (yearOfDay days + 1) := by
  unfold yearOfDay
  dsimp only
  split
  · rename_i h
    refine ⟨h, ?_⟩
    unfold daysBeforeYear
    omega
  · rename_i h
    refine ⟨?_, by omega⟩
    unfold daysBeforeYear
    omega

/-- A day of the year lies in its month, if it lies in one of the months that are
    looked at. -/
theorem monthOfDay_spec (year : Int) {day months : Nat}
    (h : day < daysBeforeMonth year (months + 1)) :
    1 ≤ monthOfDay year day months ∧ monthOfDay year day months ≤ months ∧
      daysBeforeMonth year (monthOfDay year day months) ≤ day ∧
      day < daysBeforeMonth year (monthOfDay year day months + 1) := by
  induction months with
  | zero =>
    rw [daysBeforeMonth_one] at h
    omega
  | succ months ih =>
    unfold monthOfDay
    split
    · rename_i hle
      exact ⟨by omega, by omega, hle, h⟩
    · rename_i hlt
      obtain ⟨hpos, hmonths, hday⟩ := ih (Nat.lt_of_not_le hlt)
      exact ⟨hpos, by omega, hday⟩

/-- What finding the date of a day comes to: the year, the month and the day of the
    year. -/
theorem ofDayNumber_spec (n : Int) :
    ∃ year month day, ofDayNumber n = ⟨year, month, day - daysBeforeMonth year month + 1⟩ ∧
      n + epoch = daysBeforeYear year + day ∧ 1 ≤ month ∧ month ≤ 12 ∧
      daysBeforeMonth year month ≤ day ∧ day < daysBeforeMonth year (month + 1) := by
  obtain ⟨hle, hlt⟩ := yearOfDay_spec (n + epoch)
  rw [daysBeforeYear_succ_eq] at hlt
  generalize hyear : yearOfDay (n + epoch) = year at hle hlt
  have hday : (n + epoch - daysBeforeYear year).toNat < daysBeforeMonth year 13 := by omega
  refine ⟨year, _, _, ?_, ?_, monthOfDay_spec year hday⟩
  · rw [ofDayNumber, hyear]
  · omega

/-- **The date of a day names a day.** -/
theorem valid_ofDayNumber (n : Int) : (ofDayNumber n).Valid := by
  obtain ⟨year, month, day, hdate, -, hpos, hmonth, hle, hlt⟩ := ofDayNumber_spec n
  rw [daysBeforeMonth_succ year hpos] at hlt
  rw [hdate]
  refine ⟨hpos, hmonth, ?_, ?_⟩
  · exact Nat.le_add_left 1 _
  · dsimp only
    omega

/-- **The date of a day has its number.** -/
theorem dayNumber_ofDayNumber (n : Int) : (ofDayNumber n).dayNumber = n := by
  obtain ⟨year, month, day, hdate, hn, -, -, hle, -⟩ := ofDayNumber_spec n
  rw [hdate, dayNumber]
  dsimp only
  omega

/-- The days before the start of a year lie in the years before. -/
theorem year_ofDayNumber_lt_iff {n year : Int} :
    (ofDayNumber n).year < year ↔ n < dayNumber ⟨year, 1, 1⟩ := by
  have hstart : dayNumber ⟨year, 1, 1⟩ = daysBeforeYear year - epoch := by
    simp only [dayNumber, daysBeforeMonth_one]
    omega
  obtain ⟨hle, hlt⟩ := yearOfDay_spec (n + epoch)
  show yearOfDay (n + epoch) < year ↔ _
  rw [hstart]
  rcases Int.lt_or_le (yearOfDay (n + epoch)) year with h | h
  · have := daysBeforeYear_mono h
    omega
  · have := daysBeforeYear_mono h
    omega

end Date

end TaskQuery
