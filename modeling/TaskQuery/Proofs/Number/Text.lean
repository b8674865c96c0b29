/-
  TaskQuery — numbers are told by their texts.

  * `pointText whole fraction`: digits, and more digits behind a point if there are any;
    `ofChars?_pointText`: the numeral that is read from them;
  * `writeDecimal_eq`: the plain text of a decimal consists of such digits, and they have
    its value;
  * `numeral?_finite`: so the text of a finite number is read as its sign and a value that
    rounds to it;
  * `toText_inj`: different numbers have different texts.
-/
import TaskQuery.Number.Numeral
import TaskQuery.Proofs.Calendar.Instant
import TaskQuery.Proofs.Lists
import TaskQuery.Proofs.Number.Shortest

namespace TaskQuery.Number

open Text (takeWhile_append_stop)

/-! ## Digits around a point -/

/-- Digits, and more digits behind a point if there are any. -/
def pointText (whole fraction : List Char) : List Char :=
  whole ++ (if fraction = [] then [] else '.' :: fraction)

variable {whole fraction : List Char}

theorem takeWhile_digits {digits : List Char} (h : ∀ c ∈ digits, c.isDigit) :
    digits.takeWhile Char.isDigit = digits ∧ digits.dropWhile Char.isDigit = [] :=
  ⟨List.takeWhile_eq_self_iff.2 h, List.dropWhile_eq_nil_iff.2 h⟩

/-- The numeral that is read from digits around a point. -/
theorem ofChars?_pointText (hne : whole ≠ []) (hwhole : ∀ c ∈ whole, c.isDigit)
    (hfraction : ∀ c ∈ fraction, c.isDigit) :
    Numeral.ofChars? (pointText whole fraction) =
      some ⟨digitsValue (whole ++ fraction), -fraction.length⟩ := by
  unfold pointText
  split
  · rename_i hnone
    obtain ⟨htake, hdrop⟩ := takeWhile_digits hwhole
    rw [List.append_nil, Numeral.ofChars?, htake, hdrop, hnone]
    simp [hne, exponent?]
  · have hpoint : ∀ c ∈ ('.' :: fraction).head?, c.isDigit = false := by simp
    obtain ⟨htake, hdrop⟩ := takeWhile_append_stop hwhole hpoint
    obtain ⟨htake', hdrop'⟩ := takeWhile_digits hfraction
    rw [Numeral.ofChars?, htake, hdrop]
    simp [hne, htake', hdrop', exponent?]

/-! ## Decimals -/

/-- Zeros behind digits raise their value, those before them do not. -/
theorem digitsValue_zeros (digits : List Char) (k : Nat) :
    digitsValue (digits ++ List.replicate k '0') = digitsValue digits * 10 ^ k ∧
      digitsValue (List.replicate k '0' ++ digits) = digitsValue digits := by
  simp only [Instant.digitsValue_eq, Nat.ofDigitChars_append, Nat.ofDigitChars_replicate_zero,
    Nat.mul_zero, and_true]
  exact Nat.mul_comm _ _

/-- **The plain text of a decimal** consists of digits around a point that have its value. -/
theorem writeDecimal_eq (d : Decimal) : ∃ whole fraction, whole ≠ [] ∧
    (∀ c ∈ whole, c.isDigit) ∧ (∀ c ∈ fraction, c.isDigit) ∧
    plain.writeDecimal d = pointText whole fraction ∧
    (digitsValue (whole ++ fraction) : ℚ) * 10 ^ (-(fraction.length : Int)) = d.value := by
  have hdigits : ∀ c ∈ Nat.toDigits 10 d.digits, c.isDigit :=
    fun c hc => Nat.isDigit_of_mem_toDigits (by decide) (by decide) hc
  have hzeros (k : Nat) : ∀ c ∈ List.replicate k '0', c.isDigit := fun c hc => by
    rw [List.eq_of_mem_replicate hc]
    decide
  have hvalue : digitsValue (Nat.toDigits 10 d.digits) = d.digits := by
    rw [Instant.digitsValue_eq, Nat.ofDigitChars_toDigits (by decide) (by decide)]
  have hne : Nat.toDigits 10 d.digits ≠ [] := Nat.toDigits_ne_nil
  show ∃ whole fraction, _ ∧ _ ∧ _ ∧
    placePoint plain (Nat.toDigits 10 d.digits) ((Nat.toDigits 10 d.digits).length + d.place) = _ ∧
    _
  generalize Nat.toDigits 10 d.digits = digits at *
  unfold placePoint Decimal.value
  split
  · rename_i hplace
    obtain ⟨k, hk⟩ := Int.eq_ofNat_of_zero_le (a := d.place) (by omega)
    have hcount : (digits.length + d.place - digits.length).toNat = k := by omega
    refine ⟨digits ++ List.replicate k '0', [], by simp [hne],
      List.forall_mem_append.2 ⟨hdigits, hzeros k⟩, by simp, ?_, ?_⟩
    · rw [hcount, pointText, if_pos rfl]
      rfl
    · rw [List.append_nil, (digitsValue_zeros digits k).1, hvalue, hk]
      simp
  split
  · rename_i hinside hpoint
    obtain ⟨k, hk⟩ := Int.eq_ofNat_of_zero_le hpoint.le
    refine ⟨digits.take k, digits.drop k, ?_, fun c hc => hdigits c (List.mem_of_mem_take hc),
      fun c hc => hdigits c (List.mem_of_mem_drop hc), ?_, ?_⟩
    · simp [hne]
      omega
    · rw [hk, Int.toNat_natCast, pointText, if_neg]
      rw [List.drop_eq_nil_iff]
      omega
    · have hplace : -((digits.drop k).length : Int) = d.place := by
        rw [List.length_drop]
        omega
      rw [List.take_append_drop, hvalue, hplace]
  · rename_i hinside hpoint
    obtain ⟨k, hk⟩ := Int.eq_ofNat_of_zero_le (a := -(digits.length + d.place)) (by omega)
    refine ⟨['0'], List.replicate k '0' ++ digits, by simp, hzeros 1,
      List.forall_mem_append.2 ⟨hzeros k, hdigits⟩, ?_, ?_⟩
    · rw [hk, Int.toNat_natCast, pointText, if_neg (by simp [hne])]
      rfl
    · have hplace : -((List.replicate k '0' ++ digits).length : Int) = d.place := by
        rw [List.length_append, List.length_replicate]
        omega
      rw [← List.append_assoc, ← List.replicate_one, ← List.replicate_add,
        (digitsValue_zeros digits _).2, hvalue, hplace]

/-! ## Numbers -/

/-- The text of a finite number is read as its sign and a value that rounds to it. -/
theorem numeral?_finite (negative : Bool) (step : Fin stepCount) :
    ∃ body numeral, splitSign (toText (.finite negative step)).toList = (negative, body) ∧
      Numeral.ofChars? body = some numeral ∧
      RoundsTo (numeral.digits * 10 ^ numeral.exponent) step := by
  obtain ⟨whole, fraction, hne, hwhole, hfraction, htext, hvalue⟩ :=
    writeDecimal_eq (shortest plain step)
  refine ⟨_, _, ?_, ofChars?_pointText hne hwhole hfraction, ?_⟩
  · rw [toText, Style.write, String.toList_ofList, htext]
    cases negative with
    | true => rfl
    | false =>
      obtain ⟨c, more, rfl⟩ := List.exists_cons_of_ne_nil hne
      have hc : c.isDigit := hwhole c List.mem_cons_self
      refine splitSign_of_ne ?_ ?_ _
      · rintro rfl
        exact absurd hc (by decide)
      · rintro rfl
        exact absurd hc (by decide)
  · rw [hvalue]
    exact roundsTo_shortest plain step

/-- The text of a number that is not finite is no numeral, and none that another number has. -/
theorem toText_of_not_finite {a : Number} (ha : a.isFinite = false) :
    Numeral.ofChars? (splitSign a.toText.toList).2 = none ∧
      ∀ b : Number, b.isFinite = false → a.toText = b.toText → a = b := by
  have hmem (n : Number) (hn : n.isFinite = false) : n ∈ [nan, infinite true, infinite false] := by
    cases n with
    | nan => decide
    | infinite negative => cases negative <;> decide
    | finite => cases hn
  have hnone : ∀ n ∈ [nan, infinite true, infinite false],
      Numeral.ofChars? (splitSign n.toText.toList).2 = none := by decide
  have hinj : ∀ a ∈ [nan, infinite true, infinite false],
      ∀ b ∈ [nan, infinite true, infinite false], a.toText = b.toText → a = b := by decide
  exact ⟨hnone a (hmem a ha), fun b hb => hinj a (hmem a ha) b (hmem b hb)⟩

theorem isFinite_of_toText_eq {a b : Number} (h : a.toText = b.toText) (hb : b.isFinite) :
    a.isFinite := by
  cases b with
  | nan | infinite => cases hb
  | finite negative step =>
    obtain ⟨body, numeral, hsplit, hread, -⟩ := numeral?_finite negative step
    by_contra ha
    have hnone := (toText_of_not_finite (Bool.eq_false_iff.2 ha)).1
    rw [h, hsplit, hread] at hnone
    cases hnone

/-- **Numbers are told by their texts.** -/
theorem toText_inj {a b : Number} : a.toText = b.toText ↔ a = b := by
  refine ⟨fun h => ?_, congrArg toText⟩
  by_cases hb : b.isFinite
  · have ha := isFinite_of_toText_eq h hb
    cases a with
    | nan | infinite => cases ha
    | finite negative step =>
      cases b with
      | nan | infinite => cases hb
      | finite negative' step' =>
        obtain ⟨body, numeral, hsplit, hread, hrounds⟩ := numeral?_finite negative step
        obtain ⟨body', numeral', hsplit', hread', hrounds'⟩ := numeral?_finite negative' step'
        obtain ⟨rfl, rfl⟩ : negative = negative' ∧ body = body' := by
          rw [h, hsplit'] at hsplit
          exact ⟨(congrArg Prod.fst hsplit).symm, (congrArg Prod.snd hsplit).symm⟩
        obtain rfl : numeral = numeral' := Option.some.inj (hread.symm.trans hread')
        exact congrArg _ (Fin.ext (hrounds.unique hrounds'))
  · have ha : a.isFinite = false :=
      Bool.eq_false_iff.2 fun ha => hb (isFinite_of_toText_eq h.symm ha)
    exact (toText_of_not_finite ha).2 b (Bool.eq_false_iff.2 hb) h

end TaskQuery.Number
