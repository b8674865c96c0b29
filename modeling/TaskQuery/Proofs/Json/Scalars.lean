/-
  TaskQuery — strings and numbers of JSON text are read back.

  * `readString_escaped`: every string is read back from its escaped characters;
  * `EndsNumeral rest`: a text does not go on with a numeral that stands before it;
    `readNumber_append`: a numeral is read alike whatever such text is behind it;
  * `readNumber_toDigits`: the integers of 64 bits are read back from their digits.
-/
import TaskQuery.Json.Reading
import TaskQuery.Proofs.Calendar.Instant
import TaskQuery.Proofs.Toml.Documents

namespace TaskQuery.Json

/-! ## Strings -/

variable {state next : StringState} {before rest chars : List Char} {c d : Char}

theorem readStringFrom_step (hopen : ¬ (c = '"' ∧ state.isPlain))
    (hstep : state.step rest c = .ok (next, chars)) :
    readStringFrom state before (c :: rest) = readStringFrom next (chars ++ before) rest := by
  rw [readStringFrom, if_neg hopen, hstep]

/-- An escape of one letter is read as its character. -/
theorem readStringFrom_letter (h : escapedChar? c = some d) :
    readStringFrom .plain before ('\\' :: c :: rest) =
      readStringFrom .plain (d :: before) rest := by
  have hu : c ≠ 'u' := by
    rintro rfl
    cases h
  rw [readStringFrom_step (by simp) rfl,
    readStringFrom_step (by simp [StringState.isPlain])
      (by rw [StringState.step, if_neg hu, h])]
  rfl

theorem shortOfFour_four (a b c d : Char) (rest : List Char) :
    shortOfFour (a :: b :: c :: d :: rest) = false := by
  have ha := a.utf8Size_pos
  have hb := b.utf8Size_pos
  have hc := c.utf8Size_pos
  have hd := d.utf8Size_pos
  simp [shortOfFour]
  omega

theorem hexValue?_digitChar : ∀ n < 16, hexValue? (Nat.digitChar n) = some n := by
  decide

variable {left value digit : Nat} {half : Option Nat}

theorem step_hex (hleft : 1 < left) (h : hexValue? c = some digit) :
    StringState.step rest c (.hex left value half) =
      .ok (.hex (left - 1) (value * 16 + digit) half, []) := by
  simp only [StringState.step, h]
  rw [if_neg (by omega)]

theorem step_hex_last (h : hexValue? c = some digit) (hvalue : value * 16 + digit < 0xD800) :
    StringState.step rest c (.hex 1 value none) =
      .ok (.plain, [Char.ofNat (value * 16 + digit)]) := by
  simp only [StringState.step, h, closeHex]
  rw [if_pos (Nat.le_refl 1), if_neg (by omega), if_neg (by omega)]

/-- An escape of four digits is read as its character if that is a control character. -/
theorem readStringFrom_hex (h : c.toNat < 0x20) :
    readStringFrom .plain before ('\\' :: 'u' :: '0' :: '0' :: Nat.digitChar (c.toNat / 16) ::
      Nat.digitChar (c.toNat % 16) :: rest) = readStringFrom .plain (c :: before) rest := by
  have hhigh := hexValue?_digitChar (c.toNat / 16) (by omega)
  have hlow := hexValue?_digitChar (c.toNat % 16) (by omega)
  have hzero : hexValue? '0' = some 0 := rfl
  have hvalue : (((0 * 16 + 0) * 16 + 0) * 16 + c.toNat / 16) * 16 + c.toNat % 16 = c.toNat := by
    omega
  have hopen (left value : Nat) (c : Char) :
      ¬ (c = '"' ∧ (StringState.hex left value none).isPlain) := fun hc => nomatch hc.2
  rw [readStringFrom_step (by simp) rfl,
    readStringFrom_step (by simp) (by rw [StringState.step, if_pos rfl, shortOfFour_four]; rfl),
    readStringFrom_step (hopen _ _ _) (step_hex (by omega) hzero),
    readStringFrom_step (hopen _ _ _) (step_hex (by omega) hzero),
    readStringFrom_step (hopen _ _ _) (step_hex (by omega) hhigh),
    readStringFrom_step (hopen _ _ _) (step_hex_last hlow (by omega))]
  rw [hvalue, Char.ofNat_toNat]
  rfl

/-- A character is read back from its escape, or from itself. -/
theorem readStringFrom_escapeChar (c : Char) (before rest : List Char) :
    readStringFrom .plain before (escapeChar c ++ rest) =
      readStringFrom .plain (c :: before) rest := by
  unfold escapeChar
  split_ifs with hself hback htab hline hform hreturn hcontrol
  · refine readStringFrom_letter ?_
    rcases hself with rfl | rfl <;> rfl
  · subst hback
    exact readStringFrom_letter rfl
  · subst htab
    exact readStringFrom_letter rfl
  · subst hline
    exact readStringFrom_letter rfl
  · subst hform
    exact readStringFrom_letter rfl
  · subst hreturn
    exact readStringFrom_letter rfl
  · exact readStringFrom_hex hcontrol
  · obtain ⟨hquote, hslash⟩ := not_or.1 hself
    rw [List.singleton_append, readStringFrom_step (fun hc => hquote hc.1)
      (by rw [StringState.step, if_neg hslash, if_neg hcontrol])]
    rfl

theorem readStringFrom_escaped (before chars rest : List Char) :
    readStringFrom .plain before (chars.flatMap escapeChar ++ '"' :: rest) =
      .ok (String.ofList (before.reverse ++ chars), rest) := by
  induction chars generalizing before with
  | nil => simp [readStringFrom, StringState.isPlain]
  | cons c chars ih =>
    rw [List.flatMap_cons, List.append_assoc, readStringFrom_escapeChar, ih]
    simp

/-- A string is read back from its escaped characters. -/
theorem readString_escaped (s : String) (rest : List Char) :
    readString (s.toList.flatMap escapeChar ++ '"' :: rest) = .ok (s, rest) := by
  rw [readString, readStringFrom_escaped, List.reverse_nil, List.nil_append, String.ofList_toList]

/-! ## Ends of numerals -/

/-- A text does not go on with a numeral that stands before it. -/
def EndsNumeral (rest : List Char) : Prop :=
  ∀ c ∈ rest.head?, ¬ c.isDigit ∧ c ≠ '.' ∧ c ≠ 'e' ∧ c ≠ 'E'

theorem endsNumeral_nil : EndsNumeral [] := by
  intro c hc
  cases hc

theorem endsNumeral_cons : EndsNumeral (c :: rest) ↔
    ¬ c.isDigit ∧ c ≠ '.' ∧ c ≠ 'e' ∧ c ≠ 'E' := by
  simp [EndsNumeral]

variable {text after digits : List Char}

/-- The digits at the start of a text are those at its start with more behind it. -/
theorem takeWhile_isDigit_append (hrest : EndsNumeral rest) (text : List Char) :
    (text ++ rest).takeWhile Char.isDigit = text.takeWhile Char.isDigit ∧
      (text ++ rest).dropWhile Char.isDigit = text.dropWhile Char.isDigit ++ rest :=
  Text.takeWhile_append_of_stop text fun c hc => Bool.eq_false_iff.2 (hrest c hc).1

theorem readWhole_append (hrest : EndsNumeral rest) (h : readWhole text = .ok (digits, after)) :
    readWhole (text ++ rest) = .ok (digits, after ++ rest) := by
  unfold readWhole at h
  split at h
  · cases h
  · split_ifs at h with hdigit
    cases h
    rw [List.cons_append, readWhole, if_neg]
    cases after with
    | nil =>
      cases rest with
      | nil => simp
      | cons c rest => simpa using (endsNumeral_cons.1 hrest).1
    | cons c after => simpa using hdigit
  · rename_i c text hzero
    split_ifs at h with hdigit
    cases h
    obtain ⟨htake, hdrop⟩ := takeWhile_isDigit_append hrest text
    rw [List.cons_append, readWhole, if_pos hdigit, htake, hdrop]
    exact hzero

theorem readDigits_append (hrest : EndsNumeral rest) (h : readDigits text = .ok (digits, after)) :
    readDigits (text ++ rest) = .ok (digits, after ++ rest) := by
  obtain ⟨htake, hdrop⟩ := takeWhile_isDigit_append hrest text
  unfold readDigits at h ⊢
  rw [htake, hdrop]
  dsimp only at h ⊢
  split_ifs at h ⊢ with hnone
  cases h
  rfl

theorem readFraction_of_head (h : text.head? ≠ some '.') :
    readFraction text = .ok (none, text) := by
  unfold readFraction
  split
  · simp at h
  · rfl

theorem readFraction_append {fraction : Option (List Char)} (hrest : EndsNumeral rest)
    (h : readFraction text = .ok (fraction, after)) :
    readFraction (text ++ rest) = .ok (fraction, after ++ rest) := by
  by_cases hpoint : text.head? = some '.'
  · obtain ⟨text, rfl⟩ := List.head?_eq_some_iff.1 hpoint
    rw [readFraction] at h
    rw [List.cons_append, readFraction]
    cases hread : readDigits text with
    | error => simp [hread, Except.map] at h
    | ok read =>
      obtain ⟨digits, left⟩ := read
      rw [hread] at h
      cases h
      rw [readDigits_append hrest hread]
      rfl
  · rw [readFraction_of_head hpoint] at h
    cases h
    refine readFraction_of_head ?_
    cases text with
    | nil => exact fun hhead => (hrest '.' hhead).2.1 rfl
    | cons c text => exact hpoint

theorem splitSign_append (hne : text ≠ []) (rest : List Char) :
    Number.splitSign (text ++ rest) =
      ((Number.splitSign text).1, (Number.splitSign text).2 ++ rest) := by
  obtain ⟨c, text, rfl⟩ := List.exists_cons_of_ne_nil hne
  by_cases hminus : c = '-'
  · subst hminus
    rfl
  by_cases hplus : c = '+'
  · subst hplus
    rfl
  have hsign := Number.splitSign_of_ne hminus hplus
  rw [List.cons_append, hsign, hsign, List.cons_append]

theorem readExponent_append {exponent : Option Int} (hrest : EndsNumeral rest)
    (h : readExponent text = .ok (exponent, after)) :
    readExponent (text ++ rest) = .ok (exponent, after ++ rest) := by
  cases text with
  | nil =>
    cases h
    cases rest with
    | nil => rfl
    | cons c rest =>
      obtain ⟨-, -, he, hE⟩ := endsNumeral_cons.1 hrest
      rw [List.nil_append, readExponent, if_neg (not_or.2 ⟨he, hE⟩)]
  | cons c text =>
    rw [readExponent] at h
    rw [List.cons_append, readExponent]
    split_ifs at h ⊢ with hletter
    · dsimp only at h ⊢
      cases hread : readDigits (Number.splitSign text).2 with
      | error => simp [hread, Except.map] at h
      | ok read =>
        obtain ⟨digits, left⟩ := read
        have hne : text ≠ [] := by
          rintro rfl
          simp [Number.splitSign, readDigits] at hread
        rw [hread] at h
        cases h
        rw [splitSign_append hne, readDigits_append hrest hread]
        rfl
    · cases h
      rfl

variable {negative : Bool} {v : Json}

/-- What it takes to read a number. -/
theorem readNumber_eq_ok : readNumber negative text = .ok (v, after) ↔
    ∃ whole text₁ fraction text₂ exponent, readWhole text = .ok (whole, text₁) ∧
      readFraction text₁ = .ok (fraction, text₂) ∧ readExponent text₂ = .ok (exponent, after) ∧
      numeralValue? ⟨negative, whole, fraction, exponent⟩ = some v := by
  simp only [readNumber, bind, Except.bind]
  cases hwhole : readWhole text with
  | error => simp
  | ok read =>
    obtain ⟨whole, text₁⟩ := read
    cases hfraction : readFraction text₁ with
    | error => simp [hfraction]
    | ok read =>
      obtain ⟨fraction, text₂⟩ := read
      cases hexponent : readExponent text₂ with
      | error => simp [hfraction, hexponent]
      | ok read =>
        obtain ⟨exponent, text₃⟩ := read
        cases hvalue : numeralValue? ⟨negative, whole, fraction, exponent⟩ with
        | none => simp [hfraction, hexponent, hvalue]
        | some value =>
          constructor
          · intro h
            simp only [hfraction, hexponent, hvalue, Except.ok.injEq, Prod.mk.injEq] at h
            obtain ⟨rfl, rfl⟩ := h
            exact ⟨whole, text₁, fraction, text₂, exponent, rfl, hfraction, hexponent, hvalue⟩
          · rintro ⟨whole', _, fraction', _, exponent', hwhole', hfraction', hexponent', hvalue'⟩
            cases hwhole'
            rw [hfraction] at hfraction'
            cases hfraction'
            rw [hexponent] at hexponent'
            cases hexponent'
            rw [hvalue] at hvalue'
            cases hvalue'
            simp [hfraction, hexponent, hvalue]

/-- A numeral is read alike whatever is behind it that does not go on with it. -/
theorem readNumber_append (hrest : EndsNumeral rest)
    (h : readNumber negative text = .ok (v, after)) :
    readNumber negative (text ++ rest) = .ok (v, after ++ rest) := by
  obtain ⟨whole, text₁, fraction, text₂, exponent, hwhole, hfraction, hexponent, hvalue⟩ :=
    readNumber_eq_ok.1 h
  exact readNumber_eq_ok.2 ⟨whole, _, fraction, _, exponent, readWhole_append hrest hwhole,
    readFraction_append hrest hfraction, readExponent_append hrest hexponent, hvalue⟩

/-! ## Integers -/

theorem le_ofDigitChars (digits : List Char) (value : Nat) :
    value ≤ Nat.ofDigitChars 10 digits value := by
  induction digits generalizing value with
  | nil => exact Nat.le_refl value
  | cons c digits ih =>
    rw [Nat.ofDigitChars, List.foldl_cons]
    refine Nat.le_trans ?_ (ih _)
    omega

/-- Digits whose value fits in 64 bits are collected without loss. -/
theorem collect_eq (h : Nat.ofDigitChars 10 digits value < twoTo 64) :
    collect value digits = (Nat.ofDigitChars 10 digits value, 0) := by
  induction digits generalizing value with
  | nil => rfl
  | cons c digits ih =>
    have hnext : value * 10 + Number.digitsValue [c] = 10 * value + (c.toNat - '0'.toNat) := by
      simp [Number.digitsValue, Nat.mul_comm]
    have hcons : Nat.ofDigitChars 10 (c :: digits) value =
        Nat.ofDigitChars 10 digits (value * 10 + Number.digitsValue [c]) := by
      rw [hnext]
      rfl
    rw [hcons] at h ⊢
    rw [collect, if_pos (Nat.lt_of_le_of_lt (le_ofDigitChars _ _) h), ih h]

/-- A whole number is read to the end of its digits. -/
theorem readWhole_toDigits (n : Nat) :
    readWhole (Nat.toDigits 10 n) = .ok (Nat.toDigits 10 n, []) := by
  rcases Nat.eq_zero_or_pos n with rfl | hn
  · rfl
  have hdigits := Toml.isDigit_toDigits n
  have hhead := Toml.head_toDigits hn
  cases htext : Nat.toDigits 10 n with
  | nil => exact absurd htext Nat.toDigits_ne_nil
  | cons c digits =>
    rw [htext] at hdigits hhead
    obtain ⟨hc, hdigits⟩ := List.forall_mem_cons.1 hdigits
    rw [readWhole, if_pos hc]
    · rw [← List.append_nil digits, List.takeWhile_append_of_pos hdigits,
        List.dropWhile_append_of_pos hdigits]
      simp
    · rintro rfl
      exact hhead rfl

/-- The integers of 64 bits. -/
def IntegerInRange (i : Int) : Prop :=
  -(twoTo 63 : Int) ≤ i ∧ i < twoTo 64

instance (i : Int) : Decidable (IntegerInRange i) :=
  inferInstanceAs (Decidable (_ ∧ _))

/-- An integer of 64 bits is read back from its digits after its sign. -/
theorem readNumber_toDigits {i : Int} (h : IntegerInRange i) :
    readNumber (decide (i < 0)) (Nat.toDigits 10 i.natAbs) = .ok (.integer i, []) := by
  obtain ⟨hlow, hhigh⟩ := h
  have hpowers : twoTo 63 = 9223372036854775808 ∧ twoTo 64 = 18446744073709551616 := by decide
  have hvalue : Nat.ofDigitChars 10 (Nat.toDigits 10 i.natAbs) 0 = i.natAbs :=
    Nat.ofDigitChars_toDigits (by decide) (by decide)
  have hcollect : collect 0 (Nat.toDigits 10 i.natAbs) = (i.natAbs, 0) := by
    rw [collect_eq, hvalue]
    rw [hvalue]
    omega
  refine readNumber_eq_ok.2 ⟨_, [], none, [], none, readWhole_toDigits _, rfl, rfl, ?_⟩
  unfold numeralValue?
  simp only [hcollect, Option.getD_none, collect, Option.isNone_none, decide_eq_true_eq]
  by_cases hneg : i < 0
  · have hmagnitude : 0 < i.natAbs ∧ i.natAbs ≤ twoTo 63 := by omega
    have hsign : -(i.natAbs : Int) = i := by omega
    rw [if_pos ⟨trivial, trivial, trivial, fun _ => hmagnitude⟩, if_pos hneg, hsign]
  · have hsign : (i.natAbs : Int) = i := by omega
    rw [if_pos ⟨trivial, trivial, trivial, fun h => absurd h hneg⟩, if_neg hneg, hsign]

end TaskQuery.Json
