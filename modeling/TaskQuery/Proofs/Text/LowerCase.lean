/-
  TaskQuery — lower-case forms of the parts of a text.

  The form of a part depends on what stands around it through capital sigmas only, and
  through two facts only: whether the nearest characters on either side that are not
  case-ignorable are cased.

  * `lowerBetween before after text`: the form of a part with what stands around it;
  * `lowerBetween_congr`: the two facts are all that counts;
  * `lowercase_intercalate`: the form of texts joined by commas is the join of their forms;
  * `SigmaSettled before after`: what a sigma between two texts becomes is settled by them;
    `lowerBetween_settled`: a text whose sigmas are settled has one form in every place;
  * `exists_not_infix`: any other text has a form that is missing in some longer text.
-/
import Mathlib.Data.List.Count
import TaskQuery.Text.LetterCase

namespace TaskQuery.Text

variable {before after text a b u v : List Char} {c : Char}

/-! ## Neighbours -/

theorem meetsCased_nil : meetsCased [] = false := rfl

theorem meetsCased_cons :
    meetsCased (c :: text) = if isCaseIgnorable c then meetsCased text else isCased c := by
  unfold meetsCased
  by_cases h : isCaseIgnorable c <;> simp [h]

theorem meetsCased_append_congr (h : meetsCased a = meetsCased b) (text : List Char) :
    meetsCased (text ++ a) = meetsCased (text ++ b) := by
  induction text with
  | nil => exact h
  | cons c text ih => simp only [List.cons_append, meetsCased_cons, ih]

/-- A text decides which neighbour is met if one of its characters is not case-ignorable. -/
def Decides (text : List Char) : Prop :=
  ∃ c ∈ text, isCaseIgnorable c = false

instance (text : List Char) : Decidable (Decides text) :=
  inferInstanceAs (Decidable (∃ c ∈ text, _))

theorem meetsCased_append_of_decides (h : Decides text) (a : List Char) :
    meetsCased (text ++ a) = meetsCased text := by
  induction text with
  | nil => simp [Decides] at h
  | cons c text ih =>
    rw [List.cons_append, meetsCased_cons, meetsCased_cons]
    split
    · rename_i hc
      refine ih ?_
      simpa [Decides, hc] using h
    · rfl

theorem meetsCased_append_of_not_decides (h : ¬ Decides text) (a : List Char) :
    meetsCased (text ++ a) = meetsCased a := by
  induction text with
  | nil => rfl
  | cons c text ih =>
    have hc : isCaseIgnorable c = true := by
      by_contra hc
      exact h ⟨c, List.mem_cons_self, by simpa using hc⟩
    rw [List.cons_append, meetsCased_cons, if_pos hc]
    exact ih fun ⟨d, hd, hignored⟩ => h ⟨d, List.mem_cons_of_mem _ hd, hignored⟩

theorem decides_of_meetsCased (h : meetsCased text = true) : Decides text := by
  by_contra hnot
  have hnil := meetsCased_append_of_not_decides hnot []
  rw [List.append_nil, h] at hnil
  cases hnil

/-! ## Parts -/

/-- The form of a text between the characters `before`, the latest of them first, and the
    text `after`. -/
def lowerBetween (before after : List Char) : List Char → List Char
  | [] => []
  | c :: rest =>
    (if c = 'Σ' then [if meetsCased before && !meetsCased (rest ++ after) then 'ς' else 'σ']
      else lowerChar c) ++ lowerBetween (c :: before) after rest

theorem lowerFrom_eq (before text : List Char) :
    lowerFrom before text = lowerBetween before [] text := by
  induction text generalizing before with
  | nil => rfl
  | cons c rest ih => rw [lowerFrom, lowerBetween, ih, List.append_nil]

theorem lowercase_eq (s : String) : (lowercase s).toList = lowerBetween [] [] s.toList := by
  rw [lowercase, String.toList_ofList, lowerFrom_eq]

theorem lowerBetween_append (before after a b : List Char) : lowerBetween before after (a ++ b) =
    lowerBetween before (b ++ after) a ++ lowerBetween (a.reverse ++ before) after b := by
  induction a generalizing before with
  | nil => rfl
  | cons c a ih =>
    rw [List.cons_append, lowerBetween, lowerBetween, ih]
    simp

/-- Of what stands around a part, it only counts whether the nearest characters are cased. -/
theorem lowerBetween_congr {before' after' : List Char}
    (hbefore : meetsCased before = meetsCased before')
    (hafter : meetsCased after = meetsCased after') :
    lowerBetween before after text = lowerBetween before' after' text := by
  induction text generalizing before before' with
  | nil => rfl
  | cons c rest ih =>
    have hcons : meetsCased (c :: before) = meetsCased (c :: before') := by
      rw [meetsCased_cons, meetsCased_cons, hbefore]
    rw [lowerBetween, lowerBetween, ih hcons, hbefore, meetsCased_append_congr hafter]

theorem lowerBetween_of_not_mem (h : 'Σ' ∉ text) :
    lowerBetween before after text = text.flatMap lowerChar := by
  induction text generalizing before with
  | nil => rfl
  | cons c rest ih =>
    obtain ⟨hc, hrest⟩ := not_or.1 (mt List.mem_cons.2 h)
    rw [lowerBetween, if_neg (Ne.symm hc), ih hrest, List.flatMap_cons]

/-- The capital letters of ASCII are the first characters with another form. -/
theorem lowerChar_of_lt (h : c.toNat < 'A'.toNat) : lowerChar c = [c] := by
  have hruns : ∀ run ∈ lowerRuns, 'A'.toNat ≤ run.first := by decide +kernel
  have hnone : lowerRuns.find? (·.covers c) = none := by
    rw [List.find?_eq_none]
    intro run hrun hcovers
    have hfirst := hruns run hrun
    simp only [LowerRun.covers, Bool.and_eq_true, decide_eq_true_eq] at hcovers
    omega
  rw [lowerChar, if_neg, hnone]
  rintro rfl
  exact absurd h (by decide)

theorem lowerBetween_eq_self (h : ∀ c ∈ text, c.toNat < 'A'.toNat) :
    lowerBetween before after text = text := by
  induction text generalizing before with
  | nil => rfl
  | cons c rest ih =>
    obtain ⟨hc, hrest⟩ := List.forall_mem_cons.1 h
    have hsigma : c ≠ 'Σ' := by
      rintro rfl
      exact absurd hc (by decide)
    rw [lowerBetween, if_neg hsigma, lowerChar_of_lt hc, ih hrest]
    rfl

/-! ## Commas -/

/-- A comma keeps what stands before it and after it apart. -/
theorem lowerBetween_comma (a b : List Char) :
    lowerBetween [] [] (a ++ ',' :: b) = lowerBetween [] [] a ++ ',' :: lowerBetween [] [] b := by
  have hcomma : isCaseIgnorable ',' = false ∧ isCased ',' = false := by decide +kernel
  have hbefore : meetsCased (',' :: a.reverse) = meetsCased [] := by
    simp [meetsCased_cons, hcomma, meetsCased_nil]
  have hafter : meetsCased (',' :: b) = meetsCased [] := by
    simp [meetsCased_cons, hcomma, meetsCased_nil]
  have hchar : lowerChar ',' = [','] := by decide +kernel
  rw [lowerBetween_append, List.append_nil, List.append_nil, lowerBetween_congr rfl hafter,
    lowerBetween, if_neg (by decide), hchar, lowerBetween_congr hbefore rfl]
  rfl

theorem lowerBetween_intercalate (parts : List (List Char)) :
    lowerBetween [] [] ([','].intercalate parts) =
      [','].intercalate (parts.map (lowerBetween [] [])) := by
  induction parts with
  | nil => rfl
  | cons part parts ih =>
    cases parts with
    | nil => simp
    | cons next parts =>
      rw [List.map_cons, List.map_cons, List.intercalate_cons_cons, List.intercalate_cons_cons,
        ← List.map_cons, ← ih, List.append_assoc, List.singleton_append, lowerBetween_comma]
      simp

/-- The form of texts joined by commas is the join of their forms. -/
theorem lowercase_intercalate (texts : List String) :
    lowercase (",".intercalate texts) = ",".intercalate (texts.map lowercase) := by
  have hcomma : ",".toList = [','] := rfl
  rw [← String.toList_inj, lowercase_eq, String.toList_intercalate, String.toList_intercalate,
    hcomma, lowerBetween_intercalate, List.map_map, List.map_map]
  congr 1
  exact List.map_congr_left fun text _ => (lowercase_eq text).symm

/-- A number that is no code point stands for the character zero. -/
theorem toNat_ofNat_or (n : Nat) : (Char.ofNat n).toNat = n ∨ (Char.ofNat n).toNat = 0 := by
  by_cases h : n.isValidChar
  · rw [Char.ofNat, dif_pos h]
    exact Or.inl rfl
  · rw [Char.ofNat, dif_neg h]
    exact Or.inr rfl

/-- No other character becomes a comma. -/
theorem comma_not_mem_lowerBetween (h : ',' ∉ text) : ',' ∉ lowerBetween before after text := by
  have hruns : ∀ run ∈ lowerRuns, (',' : Char).toNat < run.first + run.shift := by decide +kernel
  have hchar (c : Char) (hc : c ≠ ',') : ',' ∉ lowerChar c := by
    unfold lowerChar
    split
    · decide
    split
    · rename_i run hrun
      intro hmem
      have hlt := hruns run (List.mem_of_find?_eq_some hrun)
      have hcovers := List.find?_some hrun
      simp only [LowerRun.covers, Bool.and_eq_true, decide_eq_true_eq] at hcovers
      have hcode : (',' : Char).toNat = (run.lower c).toNat :=
        congrArg Char.toNat (List.mem_singleton.1 hmem)
      have hcomma : (',' : Char).toNat = 44 := rfl
      rw [LowerRun.lower] at hcode
      rcases toNat_ofNat_or (c.toNat + run.shift).toNat with h | h <;> omega
    · simpa using Ne.symm hc
  induction text generalizing before with
  | nil => simp [lowerBetween]
  | cons c rest ih =>
    obtain ⟨hc, hrest⟩ := not_or.1 (mt List.mem_cons.2 h)
    rw [lowerBetween, List.mem_append]
    rintro (hmem | hmem)
    · split at hmem
      · split at hmem <;> simp at hmem
      · exact hchar c (Ne.symm hc) hmem
    · exact ih hrest hmem

/-! ## Sigmas -/

/-- What a sigma between two texts becomes is settled by them: whatever stands around the
    texts, the sigma ends a word or it does not. -/
def SigmaSettled (before after : List Char) : Prop :=
  meetsCased after ∨ Decides before ∧ (meetsCased before → Decides after)

instance (before after : List Char) : Decidable (SigmaSettled before after) :=
  inferInstanceAs (Decidable (_ ∨ _ ∧ _))

/-- All capital sigmas of a text are settled within it. -/
def SigmasSettled (text : List Char) : Prop :=
  ∀ before after, text = before ++ 'Σ' :: after → SigmaSettled before.reverse after

theorem SigmaSettled.ends_eq (h : SigmaSettled before after) (u v : List Char) :
    (meetsCased (before ++ u) && !meetsCased (after ++ v)) =
      (meetsCased before && !meetsCased after) := by
  rcases h with hafter | ⟨hbefore, hafter⟩
  · rw [meetsCased_append_of_decides (decides_of_meetsCased hafter), hafter]
    simp
  · rw [meetsCased_append_of_decides hbefore]
    cases hcased : meetsCased before with
    | false => rfl
    | true => rw [meetsCased_append_of_decides (hafter hcased)]

/-- A text whose sigmas are settled has the same form in every place. -/
theorem lowerBetween_settled (u v : List Char) (h : ∀ a b, text = a ++ 'Σ' :: b →
    SigmaSettled (a.reverse ++ before) (b ++ after)) :
    lowerBetween (before ++ u) (after ++ v) text = lowerBetween before after text := by
  induction text generalizing before with
  | nil => rfl
  | cons c rest ih =>
    have hrest : lowerBetween (c :: before ++ u) (after ++ v) rest =
        lowerBetween (c :: before) after rest := by
      refine ih fun a b htext => ?_
      have hc := h (c :: a) b (by rw [htext, List.cons_append])
      simpa using hc
    rw [lowerBetween, lowerBetween, ← List.cons_append, hrest]
    by_cases hc : c = 'Σ'
    · subst hc
      have hsettled : SigmaSettled before (rest ++ after) := h [] rest rfl
      rw [if_pos rfl, if_pos rfl, ← List.append_assoc, hsettled.ends_eq]
    · rw [if_neg hc, if_neg hc]

/-- A sigma that is not settled is the first or the last character that decides. -/
theorem not_settled_iff : ¬ SigmaSettled before after ↔
    ¬ Decides before ∧ meetsCased after = false ∨ meetsCased before = true ∧ ¬ Decides after := by
  have hbefore : meetsCased before = true → Decides before := decides_of_meetsCased
  have hafter : meetsCased after = true → Decides after := decides_of_meetsCased
  rw [SigmaSettled]
  grind

theorem not_mem_of_not_decides (h : ¬ Decides text) : 'Σ' ∉ text :=
  fun hmem => h ⟨_, hmem, by decide +kernel⟩

/-- The form of a text around a sigma, of which only that of the sigma depends on the
    place. -/
theorem lowerBetween_sigma (before after a b : List Char) :
    lowerBetween before after (a ++ 'Σ' :: b) =
      lowerBetween before ('Σ' :: b) a ++
        (if meetsCased (a.reverse ++ before) && !meetsCased (b ++ after) then 'ς' else 'σ') ::
          lowerBetween ['Σ'] after b := by
  have hsigma : isCaseIgnorable 'Σ' = false := by decide +kernel
  have hbefore (x : List Char) : meetsCased ('Σ' :: x) = isCased 'Σ' := by
    simp [meetsCased_cons, hsigma]
  have hafter : meetsCased ('Σ' :: b ++ after) = meetsCased ('Σ' :: b) := by
    rw [List.cons_append, hbefore, hbefore]
  rw [lowerBetween_append, lowerBetween_congr rfl hafter, lowerBetween, if_pos rfl,
    lowerBetween_congr ((hbefore _).trans (hbefore []).symm) rfl]
  rfl

/-- A text with a sigma that is not settled has a form that is missing from that of some
    longer text. -/
theorem exists_not_infix (h : ¬ SigmasSettled text) :
    ∃ longer, text <:+: longer ∧ ¬ lowerBetween [] [] text <:+: lowerBetween [] [] longer := by
  have hform (before after : List Char) : lowerBetween before after ['a'] = ['a'] := by
    have hchar : lowerChar 'a' = ['a'] := by decide +kernel
    rw [lowerBetween, if_neg (by decide), hchar]
    rfl
  have hcased : meetsCased ['a'] = true := by decide +kernel
  simp only [SigmasSettled, not_forall] at h
  obtain ⟨a, b, rfl, h⟩ := h
  rcases not_settled_iff.1 h with ⟨hbefore, hafter⟩ | ⟨hbefore, hafter⟩
  · -- after a letter the sigma ends a word, and one that ends none is missing
    refine ⟨['a'] ++ (a ++ 'Σ' :: b), (List.suffix_append _ _).isInfix, fun hinfix => ?_⟩
    have ha : 'Σ' ∉ a := fun hmem => not_mem_of_not_decides hbefore (List.mem_reverse.2 hmem)
    have halone : meetsCased (a.reverse ++ []) = false :=
      meetsCased_append_of_not_decides hbefore []
    have hletter : meetsCased (a.reverse ++ ['a']) = true :=
      (meetsCased_append_of_not_decides hbefore _).trans hcased
    have hlonger : lowerBetween [] [] (['a'] ++ (a ++ 'Σ' :: b)) =
        'a' :: lowerBetween ['a'] [] (a ++ 'Σ' :: b) := by
      rw [lowerBetween_append, hform]
      rfl
    have hcount := hinfix.sublist.count_le 'σ'
    rw [hlonger, lowerBetween_sigma, lowerBetween_sigma, halone, hletter, List.append_nil, hafter,
      lowerBetween_of_not_mem ha, lowerBetween_of_not_mem ha] at hcount
    have hfinal : ('ς' == 'σ') = false ∧ ('a' == 'σ') = false := by decide
    simp only [List.count_append, List.count_cons, hfinal, beq_self_eq_true, Bool.not_false,
      Bool.and_true, Bool.false_eq_true, if_true, if_false] at hcount
    omega
  · -- before a letter the sigma ends no word, and one that ends a word is missing
    refine ⟨(a ++ 'Σ' :: b) ++ ['a'], (List.prefix_append _ _).isInfix, fun hinfix => ?_⟩
    have hb : 'Σ' ∉ b := not_mem_of_not_decides hafter
    have halone : meetsCased (b ++ []) = false := meetsCased_append_of_not_decides hafter []
    have hletter : meetsCased (b ++ ['a']) = true :=
      (meetsCased_append_of_not_decides hafter _).trans hcased
    have hlonger : lowerBetween [] [] ((a ++ 'Σ' :: b) ++ ['a']) =
        lowerBetween [] ['a'] (a ++ 'Σ' :: b) ++ ['a'] := by
      rw [lowerBetween_append, hform]
      rfl
    have hcount := hinfix.sublist.count_le 'ς'
    rw [hlonger, lowerBetween_sigma, lowerBetween_sigma, halone, hletter, List.append_nil, hbefore,
      lowerBetween_of_not_mem hb, lowerBetween_of_not_mem hb] at hcount
    have hinner : ('σ' == 'ς') = false ∧ ('a' == 'ς') = false := by decide
    simp only [List.count_append, List.count_cons, List.count_nil, hinner, beq_self_eq_true,
      Bool.not_false, Bool.not_true, Bool.and_true, Bool.and_false, Bool.false_eq_true, if_true,
      if_false] at hcount
    omega

end TaskQuery.Text
