/-
  TaskQuery — the shortest decimal of a number rounds to the number.

  * `gap n`: the distance from step `n` to the next; `units_add_one` and `units_lt`: how it
    adds up, and how small a magnitude is in terms of it;
  * `RoundsTo v n`: the number nearest to `v` is step `n`, a tie going to the even step;
    `RoundsTo.unique`: to no other step; `Decimal.roundsTo_iff`: what `Decimal.roundsTo`
    decides;
  * `exists_roundsTo_neighbour`: seventeen digits are enough;
  * `roundsTo_shortest`: the shortest decimal of a step rounds to it, whichever of two
    equally near decimals the style takes.
-/
import Mathlib.Algebra.Order.Floor.Semifield
import Mathlib.Algebra.Order.Field.Basic
import Mathlib.Data.Nat.Cast.Order.Field
import Mathlib.Data.Rat.Floor
import Mathlib.Tactic.FieldSimp
import Mathlib.Tactic.Linarith
import Mathlib.Tactic.NormNum
import Mathlib.Tactic.Positivity
import Mathlib.Tactic.Ring
import TaskQuery.Number.Shortest

namespace TaskQuery.Number

/-! ## Steps -/

theorem twoTo_succ (k : Nat) : twoTo (k + 1) = 2 * twoTo k := by
  rw [Nat.add_comm, twoTo_add]
  rfl

/-- The distance from step `n` to the next one, in units of `2 ^ -1074`. -/
def gap (n : Nat) : Nat :=
  twoTo (n / twoTo 52 - 1)

theorem gap_pos (n : Nat) : 0 < gap n :=
  twoTo_pos _

/-- A step from a binade on, and one before it. -/
theorem units_of_lt {n : Nat} (h : n < twoTo 52) : units n = n ∧ gap n = 1 := by
  refine ⟨if_pos h, ?_⟩
  rw [gap, Nat.div_eq_of_lt h]
  rfl

theorem units_binade {q r : Nat} (hr : r < twoTo 52) :
    units (twoTo 52 * (q + 1) + r) = (twoTo 52 + r) * twoTo q ∧
      gap (twoTo 52 * (q + 1) + r) = twoTo q := by
  have hdiv : (twoTo 52 * (q + 1) + r) / twoTo 52 = q + 1 := by
    rw [Nat.mul_add_div (twoTo_pos 52), Nat.div_eq_of_lt hr, Nat.add_zero]
  have hmod : (twoTo 52 * (q + 1) + r) % twoTo 52 = r := by
    rw [Nat.mul_add_mod, Nat.mod_eq_of_lt hr]
  have hge : ¬ twoTo 52 * (q + 1) + r < twoTo 52 := by
    rw [Nat.mul_succ]
    omega
  rw [units, if_neg hge, gap, hdiv, hmod]
  exact ⟨rfl, rfl⟩

/-- A step lies below the first binade, or within one. -/
theorem step_cases (n : Nat) :
    n < twoTo 52 ∨ ∃ q r, r < twoTo 52 ∧ n = twoTo 52 * (q + 1) + r := by
  rcases Nat.lt_or_ge n (twoTo 52) with h | h
  · exact Or.inl h
  · have hq : 0 < n / twoTo 52 := Nat.div_pos h (twoTo_pos 52)
    refine Or.inr ⟨n / twoTo 52 - 1, n % twoTo 52, Nat.mod_lt n (twoTo_pos 52), ?_⟩
    rw [Nat.sub_add_cancel hq, Nat.div_add_mod]

/-- The next step is one gap further; its own gap is the same, unless it begins a binade. -/
theorem units_add_one (n : Nat) : units (n + 1) = units n + gap n ∧
    (gap (n + 1) = gap n ∨ units (n + 1) = twoTo 52 * gap (n + 1)) := by
  have hpos := twoTo_pos 52
  rcases step_cases n with h | ⟨q, r, hr, rfl⟩
  · obtain ⟨hunits, hgap⟩ := units_of_lt h
    rw [hunits, hgap]
    rcases Nat.lt_or_eq_of_le (Nat.succ_le_of_lt h) with h' | h'
    · exact ⟨(units_of_lt h').1, Or.inl (units_of_lt h').2⟩
    · obtain ⟨hunits', hgap'⟩ := units_binade (q := 0) hpos
      rw [Nat.zero_add, Nat.mul_one, Nat.add_zero] at hunits' hgap'
      have hnext : n + 1 = twoTo 52 := h'
      rw [hnext, hunits', hgap']
      exact ⟨Nat.mul_one _, Or.inl rfl⟩
  · obtain ⟨hunits, hgap⟩ := units_binade (q := q) hr
    rw [hunits, hgap]
    rcases Nat.lt_or_eq_of_le (Nat.succ_le_of_lt hr) with h' | h'
    · obtain ⟨hunits', hgap'⟩ := units_binade (q := q) h'
      rw [Nat.succ_eq_add_one, ← Nat.add_assoc] at hunits' hgap'
      rw [hunits', hgap', ← Nat.add_assoc, Nat.add_mul, Nat.one_mul]
      exact ⟨rfl, Or.inl rfl⟩
    · obtain ⟨hunits', hgap'⟩ := units_binade (q := q + 1) hpos
      have hnext : twoTo 52 * (q + 1) + r + 1 = twoTo 52 * (q + 1 + 1) + 0 := by
        rw [Nat.mul_succ _ (q + 1)]
        omega
      have hfull : r + 1 = twoTo 52 := h'
      rw [hnext, hunits', hgap', Nat.add_zero]
      refine ⟨?_, Or.inr rfl⟩
      calc twoTo 52 * twoTo (q + 1) = (twoTo 52 + twoTo 52) * twoTo q := by rw [twoTo_succ q]; ring
        _ = (twoTo 52 + (r + 1)) * twoTo q := by rw [hfull]
        _ = (twoTo 52 + r) * twoTo q + twoTo q := by ring

theorem units_lt (n : Nat) : units n < 2 * twoTo 52 * gap n := by
  rcases step_cases n with h | ⟨q, r, hr, rfl⟩
  · obtain ⟨hunits, hgap⟩ := units_of_lt h
    rw [hunits, hgap]
    omega
  · obtain ⟨hunits, hgap⟩ := units_binade (q := q) hr
    rw [hunits, hgap]
    exact Nat.mul_lt_mul_of_pos_right (by omega) (twoTo_pos q)

/-- The gaps around a step are wide, measured by its magnitude. -/
theorem units_lt_gaps (n : Nat) : 2 * units (n + 1) < tenTo 16 * (gap n + gap (n + 1)) := by
  have hten (k : Nat) : 2 * twoTo 52 * k ≤ tenTo 16 * k := Nat.mul_le_mul_right k (by decide)
  rcases (units_add_one n).2 with hgap | hbinade
  · calc 2 * units (n + 1) < 2 * (2 * twoTo 52 * gap (n + 1)) :=
          Nat.mul_lt_mul_of_pos_left (units_lt _) (by decide)
      _ ≤ 2 * (tenTo 16 * gap (n + 1)) := Nat.mul_le_mul_left 2 (hten _)
      _ = tenTo 16 * (gap n + gap (n + 1)) := by rw [hgap]; ring
  · calc 2 * units (n + 1) = 2 * twoTo 52 * gap (n + 1) := by rw [hbinade, Nat.mul_assoc]
      _ ≤ tenTo 16 * gap (n + 1) := hten _
      _ < tenTo 16 * (gap n + gap (n + 1)) :=
        Nat.mul_lt_mul_of_pos_left (Nat.lt_add_of_pos_left (gap_pos n)) (tenTo_pos 16)

theorem strictMono_units : StrictMono units :=
  strictMono_nat_of_lt_succ fun n => by
    rw [(units_add_one n).1]
    exact Nat.lt_add_of_pos_right (gap_pos n)

/-! ## Rounding -/

/-- The magnitude of a step. -/
def magnitude (n : Nat) : ℚ :=
  units n / twoTo 1074

/-- The least value that may round to step `n`: halfway to the step before. -/
def lowEnd (n : Nat) : ℚ :=
  (magnitude (n - 1) + magnitude n) / 2

/-- The step nearest to a value, a tie going to the even step. -/
def RoundsTo (v : ℚ) (n : Nat) : Prop :=
  (lowEnd n < v ∧ v < lowEnd (n + 1)) ∨ (n % 2 = 0 ∧ (v = lowEnd n ∨ v = lowEnd (n + 1)))

theorem cast_twoTo_pos (k : Nat) : (0 : ℚ) < twoTo k :=
  Nat.cast_pos.2 (twoTo_pos k)

theorem cast_tenTo (k : Nat) : ((tenTo k : Nat) : ℚ) = 10 ^ k := by
  rw [tenTo, Nat.pow_eq, Nat.cast_pow]
  rfl

theorem strictMono_magnitude : StrictMono magnitude := fun _ _ h =>
  div_lt_div_of_pos_right (Nat.cast_lt.2 (strictMono_units h)) (cast_twoTo_pos 1074)

theorem lowEnd_add_one (n : Nat) : lowEnd (n + 1) = (magnitude n + magnitude (n + 1)) / 2 := rfl

theorem strictMono_lowEnd : StrictMono lowEnd := by
  refine strictMono_nat_of_lt_succ fun n => ?_
  have hbefore : magnitude (n - 1) ≤ magnitude n := strictMono_magnitude.monotone (Nat.sub_le n 1)
  have hbehind : magnitude n < magnitude (n + 1) := strictMono_magnitude (Nat.lt_succ_self n)
  rw [lowEnd_add_one, lowEnd]
  linarith

variable {v : ℚ} {m n : Nat}

theorem RoundsTo.le (h : RoundsTo v n) : lowEnd n ≤ v ∧ v ≤ lowEnd (n + 1) := by
  have hlt := strictMono_lowEnd (Nat.lt_succ_self n)
  rcases h with ⟨hlow, hhigh⟩ | ⟨-, rfl | rfl⟩
  · exact ⟨hlow.le, hhigh.le⟩
  · exact ⟨le_refl _, hlt.le⟩
  · exact ⟨hlt.le, le_refl _⟩

theorem RoundsTo.even_of_end (h : RoundsTo v n) (hend : v = lowEnd n ∨ v = lowEnd (n + 1)) :
    n % 2 = 0 := by
  rcases h with ⟨hlow, hhigh⟩ | ⟨heven, -⟩
  · rcases hend with rfl | rfl
    · exact absurd hlow (lt_irrefl _)
    · exact absurd hhigh (lt_irrefl _)
  · exact heven

/-- **A value rounds to one step only.** -/
theorem RoundsTo.unique (hm : RoundsTo v m) (hn : RoundsTo v n) : m = n := by
  have hlt {m n : Nat} (hm : RoundsTo v m) (hn : RoundsTo v n) : ¬ m < n := by
    intro hmn
    -- the value is the common end of two neighbours, of which one is odd
    have hle : lowEnd (m + 1) ≤ lowEnd n := strictMono_lowEnd.monotone hmn
    have hv : v = lowEnd (m + 1) := le_antisymm hm.le.2 (hle.trans hn.le.1)
    have hv' : v = lowEnd n := le_antisymm (hm.le.2.trans hle) hn.le.1
    have hnext : m + 1 = n := strictMono_lowEnd.injective (hv.symm.trans hv')
    have hevenm := hm.even_of_end (Or.inr hv)
    have hevenn := hn.even_of_end (Or.inl hv')
    omega
  exact Nat.le_antisymm (Nat.le_of_not_lt (hlt hn hm)) (Nat.le_of_not_lt (hlt hm hn))

/-! ## Decimals -/

/-- The value of a decimal. -/
def Decimal.value (d : Decimal) : ℚ :=
  d.digits * 10 ^ d.place

theorem Decimal.ratio_eq (d : Decimal) : 0 < d.ratio.2 ∧ d.value = d.ratio.1 / d.ratio.2 := by
  unfold value ratio
  split
  · rename_i hplace
    obtain ⟨k, hk⟩ := Int.eq_ofNat_of_zero_le hplace
    refine ⟨Nat.one_pos, ?_⟩
    rw [hk, Int.toNat_natCast, zpow_natCast, Nat.cast_mul, cast_tenTo, Nat.cast_one, div_one]
  · rename_i hplace
    obtain ⟨k, hk⟩ := Int.eq_ofNat_of_zero_le (Int.neg_nonneg.2 (Int.not_le.1 hplace).le)
    refine ⟨tenTo_pos _, ?_⟩
    rw [hk, Int.toNat_natCast, cast_tenTo, ← Int.neg_neg d.place, hk, zpow_neg, zpow_natCast,
      div_eq_mul_inv]

theorem lowEnd_eq (n : Nat) : lowEnd n = (units (n - 1) + units n : Nat) / (twoTo 1075 : Nat) := by
  rw [lowEnd, magnitude, magnitude, ← add_div, div_div, twoTo_succ 1074, Nat.cast_add, Nat.cast_mul,
    mul_comm]
  rfl

/-- What is decided of a decimal is whether its value rounds to a step. -/
theorem Decimal.roundsTo_iff {d : Decimal} : d.roundsTo n ↔ RoundsTo d.value n := by
  obtain ⟨hden, hvalue⟩ := d.ratio_eq
  have hpos : 0 < twoTo 1075 := twoTo_pos 1075
  have hlt (a b c e : Nat) (hb : 0 < b) (he : 0 < e) : (a / b : ℚ) < c / e ↔ a * e < c * b := by
    rw [div_lt_div_iff₀ (Nat.cast_pos.2 hb) (Nat.cast_pos.2 he)]
    exact_mod_cast Iff.rfl
  have heq (a b c e : Nat) (hb : 0 < b) (he : 0 < e) : (c / e : ℚ) = a / b ↔ c * b = a * e := by
    rw [div_eq_div_iff (Nat.cast_pos.2 he).ne' (Nat.cast_pos.2 hb).ne']
    exact_mod_cast Iff.rfl
  rw [RoundsTo, hvalue, lowEnd_eq, lowEnd_eq, hlt _ _ _ _ hpos hden, hlt _ _ _ _ hden hpos,
    heq _ _ _ _ hpos hden, heq _ _ _ _ hpos hden, Nat.add_sub_cancel]
  unfold roundsTo
  simp only [Bool.or_eq_true, Bool.and_eq_true, decide_eq_true_eq, beq_iff_eq]

/-! ## Seventeen digits -/

/-- The first digit of a ratio stands at its leading place, or before. -/
theorem leadingPlace_le {num den : Nat} (hden : 0 < den) (hsmall : den ≤ num * tenTo 399) :
    (10 : ℚ) ^ leadingPlace num den ≤ num / den := by
  unfold leadingPlace
  split
  · rename_i hwhole
    obtain ⟨k, hk⟩ := Nat.exists_eq_succ_of_ne_zero
      (Nat.length_toDigits_pos (b := 10) (n := num / den)).ne'
    have hdigits : 10 ^ k ≤ num / den := by
      rcases Nat.eq_zero_or_pos k with rfl | hpos
      · exact Nat.div_pos hwhole hden
      · have hlength := Nat.length_toDigits_le_iff (b := 10) (n := num / den) (by decide) hpos
        rw [hk] at hlength
        exact Nat.le_of_not_lt fun hlt => Nat.not_succ_le_self k (hlength.2 hlt)
    have hplace : ((k.succ : Nat) : Int) - 1 = k := by simp
    rw [hk, hplace, zpow_natCast]
    calc (10 : ℚ) ^ k = ((10 ^ k : Nat) : ℚ) := by rw [Nat.cast_pow]; rfl
      _ ≤ ((num / den : Nat) : ℚ) := Nat.cast_le.2 hdigits
      _ ≤ num / den := Nat.cast_div_le
  · obtain ⟨k, hk, hle⟩ : ∃ k, (List.range 400).find? (den ≤ num * tenTo ·) = some k ∧
        den ≤ num * tenTo k := by
      cases hfind : (List.range 400).find? (den ≤ num * tenTo ·) with
      | none =>
        have hnone := List.find?_eq_none.1 hfind 399 (List.mem_range.2 (by decide))
        exact absurd hsmall (by simpa using hnone)
      | some k => exact ⟨k, rfl, by simpa using List.find?_some hfind⟩
    rw [hk, Option.getD_some, zpow_neg, zpow_natCast,
      inv_le_iff_one_le_mul₀ (pow_pos (by norm_num) k),
      div_mul_eq_mul_div, one_le_div₀ (Nat.cast_pos.2 hden), ← cast_tenTo]
    exact_mod_cast hle

/-- The neighbours of a step enclose its magnitude, and differ by one in their last digit. -/
theorem neighbours_spec (n : Nat) (leading : Int) (count : Nat) :
    (neighbours n leading count).1.value ≤ magnitude n ∧
      magnitude n < (neighbours n leading count).2.value ∧
      (neighbours n leading count).2.value =
        (neighbours n leading count).1.value + 10 ^ (leading - count + 1) := by
  unfold neighbours Decimal.value
  dsimp only
  generalize leading - count + 1 = place
  have hpow : (0 : ℚ) < 10 ^ place := zpow_pos (by norm_num) place
  obtain ⟨num, den, hbelow, hratio⟩ : ∃ num den : Nat,
      (if 0 ≤ place then units n / (twoTo 1074 * tenTo place.toNat)
        else units n * tenTo (-place).toNat / twoTo 1074) = num / den ∧
      (num / den : ℚ) = magnitude n / 10 ^ place := by
    split
    · rename_i hplace
      obtain ⟨k, rfl⟩ := Int.eq_ofNat_of_zero_le hplace
      refine ⟨_, _, rfl, ?_⟩
      rw [Int.toNat_natCast, zpow_natCast, Nat.cast_mul, cast_tenTo, magnitude, div_div]
    · rename_i hplace
      obtain ⟨k, hk⟩ := Int.eq_ofNat_of_zero_le (Int.neg_nonneg.2 (Int.not_le.1 hplace).le)
      refine ⟨_, _, rfl, ?_⟩
      rw [hk, Int.toNat_natCast, ← Int.neg_neg place, hk, zpow_neg, zpow_natCast, Nat.cast_mul,
        cast_tenTo, magnitude, div_inv_eq_mul, mul_div_right_comm]
  have hfloor : ((num / den : Nat) : ℚ) ≤ magnitude n / 10 ^ place ∧
      magnitude n / 10 ^ place < ((num / den : Nat) : ℚ) + 1 := by
    rw [← hratio, ← Nat.floor_div_eq_div (K := ℚ) num den]
    exact ⟨Nat.floor_le (by positivity), Nat.lt_floor_add_one _⟩
  rw [hbelow, Nat.cast_add_one]
  rw [le_div_iff₀ hpow, div_lt_iff₀ hpow] at hfloor
  exact ⟨hfloor.1, hfloor.2, by ring⟩

/-- The gaps around a step are wide, measured by its magnitude. -/
theorem magnitude_lt_gaps (n : Nat) :
    2 * magnitude (n + 1) < 10 ^ 16 * (magnitude (n + 2) - magnitude n) := by
  have hgaps : 2 * (units (n + 1) : ℚ) < 10 ^ 16 * (gap n + gap (n + 1)) := by
    rw [← cast_tenTo]
    exact_mod_cast units_lt_gaps n
  have hdiff : (units (n + 2) : ℚ) - units n = gap n + gap (n + 1) := by
    rw [(units_add_one (n + 1)).1, (units_add_one n).1]
    push_cast
    ring
  rw [← hdiff] at hgaps
  rw [magnitude, magnitude, magnitude, ← sub_div, ← mul_div_assoc, ← mul_div_assoc]
  exact div_lt_div_of_pos_right hgaps (cast_twoTo_pos 1074)

/-- A step lies between its ends, and there is room for seventeen digits between them. -/
theorem ends_spec (n : Nat) {place : Int} (h : (10 : ℚ) ^ (place + 16) ≤ magnitude (n + 1)) :
    lowEnd (n + 1) < magnitude (n + 1) ∧ magnitude (n + 1) < lowEnd (n + 2) ∧
      lowEnd (n + 1) + 10 ^ place < lowEnd (n + 2) := by
  have hbefore : magnitude n < magnitude (n + 1) := strictMono_magnitude (Nat.lt_succ_self n)
  have hbehind : magnitude (n + 1) < magnitude (n + 2) := strictMono_magnitude (Nat.lt_succ_self _)
  have hgaps := magnitude_lt_gaps n
  have hsixteen : (10 : ℚ) ^ (place + 16) = 10 ^ place * 10 ^ 16 := zpow_add₀ (by norm_num) place 16
  rw [hsixteen] at h
  rw [lowEnd_add_one, lowEnd_add_one (n + 1)]
  exact ⟨by linarith, by linarith, by linarith⟩

/-- **Seventeen digits are enough**: with so many, one of the neighbours of a step rounds to
    it. -/
theorem exists_roundsTo_neighbour {leading : Int} (h : (10 : ℚ) ^ leading ≤ magnitude (n + 1)) :
    RoundsTo (neighbours (n + 1) leading 17).1.value (n + 1) ∨
      RoundsTo (neighbours (n + 1) leading 17).2.value (n + 1) := by
  obtain ⟨hbelow, habove, hnext⟩ := neighbours_spec (n + 1) leading 17
  obtain ⟨hlow, hhigh, hspace⟩ : _ ∧ _ ∧ _ + (10 : ℚ) ^ (leading - (17 : Nat) + 1) < _ := by
    refine ends_spec n ?_
    rwa [show leading - (17 : Nat) + 1 + 16 = leading by push_cast; ring]
  rcases lt_or_ge (lowEnd (n + 1)) (neighbours (n + 1) leading 17).1.value with hin | hout
  · exact Or.inl (Or.inl ⟨hin, hbelow.trans_lt hhigh⟩)
  · refine Or.inr (Or.inl ⟨hlow.trans habove, ?_⟩)
    rw [hnext]
    exact (add_le_add_left hout _).trans_lt hspace

/-! ## Selection -/

theorem Style.pick_cases (style : Style) (n : Nat) (below above : Decimal) :
    style.pick n below above = below ∨ style.pick n below above = above := by
  unfold pick
  dsimp only
  split_ifs
  · exact Or.inl rfl
  · exact Or.inr rfl
  · exact Or.inr rfl
  · exact Or.inl rfl

/-- What one step of the search preserves. -/
theorem roundsTo_shortestFrom_step (style : Style) {leading : Int} {more : Nat}
    (h : (RoundsTo (neighbours n leading (17 - more)).1.value n ∨
        RoundsTo (neighbours n leading (17 - more)).2.value n) ∨
      RoundsTo (shortestFrom style n leading more).value n) :
    RoundsTo (shortestFrom style n leading (more + 1)).value n := by
  rw [shortestFrom]
  dsimp only
  split_ifs with hbelow habove habove
  · rcases style.pick_cases n (neighbours n leading (17 - more)).1
      (neighbours n leading (17 - more)).2 with hpick | hpick
    · rw [hpick]
      exact Decimal.roundsTo_iff.1 hbelow
    · rw [hpick]
      exact Decimal.roundsTo_iff.1 habove
  · exact Decimal.roundsTo_iff.1 hbelow
  · exact Decimal.roundsTo_iff.1 habove
  · rw [Decimal.roundsTo_iff] at hbelow habove
    exact h.resolve_left (not_or.2 ⟨hbelow, habove⟩)

/-- The search finds a decimal that rounds to the step: the last count of digits is enough. -/
theorem roundsTo_shortestFrom (style : Style) {leading : Int}
    (h : (10 : ℚ) ^ leading ≤ magnitude (n + 1)) (more : Nat) :
    RoundsTo (shortestFrom style (n + 1) leading (more + 1)).value (n + 1) := by
  induction more with
  | zero => exact roundsTo_shortestFrom_step style (Or.inl (exists_roundsTo_neighbour h))
  | succ more ih => exact roundsTo_shortestFrom_step style (Or.inr ih)

/-- **The shortest decimal of a step rounds to it.** -/
theorem roundsTo_shortest (style : Style) (n : Nat) : RoundsTo (shortest style n).value n := by
  cases n with
  | zero =>
    have hunits : units 0 = 0 := (units_of_lt (twoTo_pos 52)).1
    have hmagnitude : magnitude 0 = 0 := by rw [magnitude, hunits, Nat.cast_zero, zero_div]
    have hlow : lowEnd 0 = 0 := by rw [lowEnd, Nat.zero_sub, hmagnitude, add_zero, zero_div]
    have hzero : (shortest style 0).value = 0 := by
      rw [shortest, if_pos rfl, Decimal.value, Nat.cast_zero, zero_mul]
    exact Or.inr ⟨rfl, Or.inl (hzero.trans hlow.symm)⟩
  | succ n =>
    have hunits : 1 ≤ units (n + 1) := strictMono_units (Nat.succ_pos n)
    have hsmall : twoTo 1074 ≤ units (n + 1) * tenTo 399 := by
      have hpowers : twoTo 1074 ≤ tenTo 399 := by decide +kernel
      exact hpowers.trans (Nat.le_mul_of_pos_left _ hunits)
    have hfound := roundsTo_shortestFrom style (leadingPlace_le (twoTo_pos 1074) hsmall) 16
    rw [shortest, if_neg (Nat.succ_ne_zero n)]
    dsimp only
    split
    · rename_i hten
      -- ten in the last place is one in the place before
      rw [Decimal.value, hten] at hfound
      rw [Decimal.value, zpow_add_one₀ (by norm_num)]
      push_cast at hfound ⊢
      rwa [one_mul, mul_comm]
    · exact hfound

end TaskQuery.Number
