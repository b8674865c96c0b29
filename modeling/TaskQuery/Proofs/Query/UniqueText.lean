/-
  TaskQuery — an expression is told by its normal text.

  A quoted text ends with its quote, a list with its bracket, and a pair with its
  parenthesis; numbers and truth values are words, which end where a blank or a
  parenthesis stands.  So a normal text is told from what stands behind it, and no quoted
  text is taken for what stands around it.

  * `Delimited rest`: what may stand behind a normal text;
  * `Literal.opening?`: the character that a literal opens with, if it is no word;
  * `Literal.toText_append_inj`, `Condition.toText_append_inj` and
    `Expression.toText_append_inj`: normal texts are told apart, whatever stands behind them;
  * `normal_text_tells_expression`: expressions with one normal text are the same.
-/
import TaskQuery.Proofs.Number.Text
import TaskQuery.Proofs.Query.NormalText
import TaskQuery.Proofs.Text.Quoted

namespace TaskQuery

/-- What may stand behind a normal text: nothing, or a text that begins with a blank or
    with a closing parenthesis. -/
def Delimited (rest : List Char) : Prop :=
  ∀ c ∈ rest.head?, c = ' ' ∨ c = ')'

theorem delimited_nil : Delimited [] := nofun

theorem delimited_blank (rest : List Char) : Delimited (' ' :: rest) := by
  simp [Delimited]

theorem delimited_paren (rest : List Char) : Delimited (')' :: rest) := by
  simp [Delimited]

variable {a b : List Char}

/-! ## Literals -/

/-- The character that a literal opens with, if it is no word. -/
def Literal.opening? : Literal → Option Char
  | text _ => some '"'
  | list _ => some '['
  | number _ | bool _ => none

/-- A character of a literal that is a word. -/
def isWordChar (c : Char) : Bool :=
  c ∉ [' ', ')', '"', '[']

namespace Number

instance (c : Char) : Decidable (IsPlainChar c) :=
  inferInstanceAs (Decidable (c.isDigit ∨ c = '.' ∨ c = '-'))

/-- The characters of a number, those of the numbers that are not finite included. -/
theorem mem_toText {n : Number} {c : Char} (h : c ∈ n.toText.toList) :
    IsPlainChar c ∨ c ∈ ['N', 'a', 'i', 'n', 'f'] := by
  have hspecial : ∀ n ∈ [nan, infinite true, infinite false],
      n.toText.toList.all fun c => IsPlainChar c ∨ c ∈ ['N', 'a', 'i', 'n', 'f'] := by decide
  cases n with
  | nan => exact List.all_iff_forall_prop.1 (hspecial _ (by decide)) c h
  | infinite negative =>
    exact List.all_iff_forall_prop.1 (hspecial _ (by cases negative <;> decide)) c h
  | finite negative step => exact Or.inl (isPlainChar_toText rfl c h)

/-- No number is written like a truth value. -/
theorem toText_ne_boolText (n : Number) (value : Bool) : n.toText ≠ boolText value := by
  intro h
  have hletter : 'e' ∈ (boolText value).toList := by cases value <;> decide
  rw [← h] at hletter
  exact absurd (mem_toText hletter) (by decide)

end Number

namespace Literal

variable {v w : Literal}

/-- A literal that is a word has none of the characters that other literals open with. -/
theorem isWordChar_toText (h : v.opening? = none) : ∀ c ∈ v.toText.toList, isWordChar c := by
  cases v with
  | text | list => cases h
  | number value =>
    intro c hc
    have hmark : ∀ d ∈ [' ', ')', '"', '['],
        ¬(Number.IsPlainChar d ∨ d ∈ ['N', 'a', 'i', 'n', 'f']) :=
      List.all_iff_forall_prop.1 (by decide)
    exact decide_eq_true fun hd => hmark c hd (Number.mem_toText hc)
  | bool value => cases value <;> exact List.all_eq_true.1 (by decide)

/-- What a literal opens with is seen from its first character. -/
theorem opening?_eq (v : Literal) (ha : Delimited a) :
    v.opening? = (v.toText.toList ++ a).head?.filter fun c => c = '"' ∨ c = '[' := by
  by_cases hopening : v.opening? = none
  · have hword := isWordChar_toText hopening
    rw [hopening]
    symm
    refine Option.filter_eq_none_iff.2 fun c hc => ?_
    cases htext : v.toText.toList with
    | nil =>
      rw [htext] at hc
      rcases ha c hc with rfl | rfl <;> decide
    | cons d text =>
      rw [htext] at hc hword
      obtain rfl : d = c := Option.some.inj hc
      have hd := hword d List.mem_cons_self
      simp only [isWordChar, decide_eq_true_eq, List.mem_cons, not_or] at hd
      simp [hd]
  · cases v with
    | text value => simp [opening?, toText, Text.quote, Option.filter_some]
    | list items => simp [opening?, toText, Option.filter_some]
    | number | bool => exact absurd rfl hopening

/-- The items of a list after the first one. -/
def moreItems (items : List String) : List Char :=
  items.flatMap fun item => ',' :: ' ' :: (Text.quote item).toList

theorem toText_list_cons (item : String) (items : List String) :
    (toText (list (item :: items))).toList =
      '[' :: ((Text.quote item).toList ++ (moreItems items ++ [']'])) := by
  have hmore : (", ".intercalate ((item :: items).map Text.quote)).toList =
      (Text.quote item).toList ++ moreItems items := by
    rw [String.toList_intercalate, List.map_cons, List.map_cons, Text.intercalate_cons, moreItems,
      List.flatMap_map, List.flatMap_map]
    simp
  rw [toText, String.toList_append, String.toList_append, hmore, List.append_assoc,
    List.append_assoc]
  simp

theorem moreItems_append_inj {items others : List String}
    (h : moreItems items ++ ']' :: a = moreItems others ++ ']' :: b) : items = others ∧ a = b := by
  induction items generalizing others with
  | nil =>
    cases others with
    | nil => exact ⟨rfl, List.tail_eq_of_cons_eq h⟩
    | cons => simp [moreItems] at h
  | cons item items ih =>
    cases others with
    | nil => simp [moreItems] at h
    | cons other others =>
      simp only [moreItems, List.flatMap_cons, List.cons_append, List.append_assoc, List.cons.injEq,
        true_and] at h
      obtain ⟨rfl, hmore⟩ := Text.quote_append_inj h
      obtain ⟨rfl, hbehind⟩ := ih hmore
      exact ⟨rfl, hbehind⟩

theorem list_append_inj {items others : List String}
    (h : (toText (list items)).toList ++ a = (toText (list others)).toList ++ b) :
    items = others ∧ a = b := by
  have hempty : (toText (list [])).toList = ['[', ']'] := by decide
  cases items with
  | nil =>
    cases others with
    | nil => exact ⟨rfl, List.append_cancel_left h⟩
    | cons => simp [hempty, toText_list_cons, Text.quote] at h
  | cons item items =>
    cases others with
    | nil => simp [hempty, toText_list_cons, Text.quote] at h
    | cons other others =>
      simp only [toText_list_cons, List.cons_append, List.append_assoc, List.nil_append,
        List.cons.injEq, true_and] at h
      obtain ⟨rfl, hmore⟩ := Text.quote_append_inj h
      obtain ⟨rfl, hbehind⟩ := moreItems_append_inj hmore
      exact ⟨rfl, hbehind⟩

/-- Literals that are words are told by their texts. -/
theorem word_inj (hv : v.opening? = none) (hw : w.opening? = none) (h : v.toText = w.toText) :
    v = w := by
  cases v with
  | text | list => cases hv
  | number value =>
    cases w with
    | text | list => cases hw
    | number other => exact congrArg number (Number.toText_inj.1 h)
    | bool other => exact absurd h (value.toText_ne_boolText other)
  | bool value =>
    cases w with
    | text | list => cases hw
    | number other => exact absurd h.symm (other.toText_ne_boolText value)
    | bool other =>
      have hinj : ∀ x y, boolText x = boolText y → x = y := by decide
      exact congrArg bool (hinj value other h)

/-- **Literals are told apart**, whatever stands behind them. -/
theorem toText_append_inj (ha : Delimited a) (hb : Delimited b)
    (h : v.toText.toList ++ a = w.toText.toList ++ b) : v = w ∧ a = b := by
  have hopening : v.opening? = w.opening? := by rw [opening?_eq v ha, opening?_eq w hb, h]
  by_cases hword : v.opening? = none
  · have hstop {rest : List Char} (hrest : Delimited rest) :
        ∀ c ∈ rest.head?, isWordChar c = false := by
      intro c hc
      rcases hrest c hc with rfl | rfl <;> decide
    have hword' : w.opening? = none := hopening ▸ hword
    obtain ⟨htext, hbehind⟩ := Text.append_inj_of_stop (isWordChar_toText hword)
      (isWordChar_toText hword') (hstop ha) (hstop hb) h
    exact ⟨word_inj hword hword' (String.toList_inj.1 htext), hbehind⟩
  · cases v with
    | number | bool => exact absurd rfl hword
    | text value =>
      cases w with
      | list | number | bool => simp [opening?] at hopening
      | text other =>
        obtain ⟨rfl, hbehind⟩ := Text.quote_append_inj h
        exact ⟨rfl, hbehind⟩
    | list items =>
      cases w with
      | text | number | bool => simp [opening?] at hopening
      | list others =>
        obtain ⟨rfl, hbehind⟩ := list_append_inj h
        exact ⟨rfl, hbehind⟩

end Literal

/-! ## Conditions -/

/-- Fields are told apart by the blank behind their names. -/
theorem Field.name_append_inj {f g : Field}
    (h : f.name.toList ++ ' ' :: a = g.name.toList ++ ' ' :: b) : f = g ∧ a = b := by
  have hname (f : Field) : ∀ c ∈ f.name.toList, decide (c ≠ ' ') = true :=
    List.all_eq_true.1 (by cases f <;> decide)
  have hblank (rest : List Char) : ∀ c ∈ (' ' :: rest).head?, decide (c ≠ ' ') = false := by simp
  obtain ⟨htext, hbehind⟩ :=
    Text.append_inj_of_stop (hname f) (hname g) (hblank a) (hblank b) h
  have hfield : some f = some g := by
    rw [← ofName?_name f, ← ofName?_name g, String.toList_inj.1 htext]
  exact ⟨Option.some.inj hfield, List.tail_eq_of_cons_eq hbehind⟩

/-- Operators are told apart by their first words. -/
theorem Operator.symbol_append_inj {o p : Operator}
    (h : o.symbol.toList ++ ' ' :: a = p.symbol.toList ++ ' ' :: b) : o = p ∧ a = b := by
  have hblank (rest : List Char) : ∀ c ∈ (' ' :: rest).head?, decide (c ≠ ' ') = false := by simp
  have hwords : ∀ o ∈ all, ∀ p ∈ all, o.symbol.toList.takeWhile (· ≠ ' ') =
      p.symbol.toList.takeWhile (· ≠ ' ') → o = p := by decide
  have hword := congrArg (List.takeWhile (· ≠ ' ')) h
  rw [(Text.takeWhile_append_of_stop _ (hblank a)).1,
    (Text.takeWhile_append_of_stop _ (hblank b)).1] at hword
  obtain rfl : o = p := hwords o o.mem_all p p.mem_all hword
  exact ⟨rfl, List.tail_eq_of_cons_eq (List.append_cancel_left h)⟩

theorem Condition.toList_toText (x : Condition) : x.toText.toList =
    x.field.name.toList ++ ' ' :: (x.operator.symbol.toList ++ ' ' :: x.value.toText.toList) := by
  simp [toText]

/-- **Conditions are told apart**, whatever stands behind them. -/
theorem Condition.toText_append_inj {x y : Condition} (ha : Delimited a) (hb : Delimited b)
    (h : x.toText.toList ++ a = y.toText.toList ++ b) : x = y ∧ a = b := by
  obtain ⟨f, o, v⟩ := x
  obtain ⟨g, p, w⟩ := y
  simp only [toList_toText, List.append_assoc, List.cons_append] at h
  obtain ⟨rfl, hoperator⟩ := Field.name_append_inj h
  obtain ⟨rfl, hvalue⟩ := Operator.symbol_append_inj hoperator
  obtain ⟨rfl, hbehind⟩ := Literal.toText_append_inj ha hb hvalue
  exact ⟨rfl, hbehind⟩

theorem Condition.eq_of_toText_eq {x y : Condition} (h : x.toText = y.toText) : x = y :=
  (toText_append_inj delimited_nil delimited_nil (congrArg (·.toList ++ []) h)).1

/-- A condition has neither a parenthesis nor a connective in front. -/
theorem Condition.exists_cons (x : Condition) :
    ∃ c text, x.toText.toList = c :: text ∧ c ∉ ['(', '&', '|'] := by
  have hname (f : Field) : ∃ c text, f.name.toList = c :: text ∧ c ∉ ['(', '&', '|'] := by
    cases f <;> exact ⟨_, _, rfl, by decide⟩
  obtain ⟨c, text, htext, hc⟩ := hname x.field
  exact ⟨c, _, by rw [toList_toText, htext, List.cons_append], hc⟩

/-! ## Expressions -/

theorem Connective.symbol_append_inj {c d : Connective}
    (h : c.symbol.toList ++ a = d.symbol.toList ++ b) : c = d ∧ a = b := by
  have hlength (c : Connective) : c.symbol.toList.length = 2 := by cases c <;> rfl
  have hinj : ∀ c d : Connective, c.symbol.toList = d.symbol.toList → c = d := by
    rintro (_ | _) (_ | _) <;> decide
  obtain ⟨htext, hbehind⟩ := List.append_inj h ((hlength c).trans (hlength d).symm)
  exact ⟨hinj c d htext, hbehind⟩

namespace Expression

theorem toList_toText_joined (connective : Connective) (left right : Expression) :
    (joined connective left right).toText.toList = '(' :: (left.toText.toList ++
      ' ' :: (connective.symbol.toList ++ ' ' :: (right.toText.toList ++ [')']))) := by
  simp [toText]

/-- **Expressions are told apart**, whatever stands behind them. -/
theorem toText_append_inj {e₁ e₂ : Expression} (ha : Delimited a) (hb : Delimited b)
    (h : e₁.toText.toList ++ a = e₂.toText.toList ++ b) : e₁ = e₂ ∧ a = b := by
  induction e₁ generalizing e₂ a b with
  | condition x =>
    cases e₂ with
    | condition y =>
      obtain ⟨rfl, hbehind⟩ := Condition.toText_append_inj ha hb h
      exact ⟨rfl, hbehind⟩
    | joined connective left right =>
      obtain ⟨c, text, htext, hc⟩ := x.exists_cons
      have hx : (condition x).toText.toList = c :: text := htext
      rw [hx, toList_toText_joined] at h
      exact absurd ((List.cons.inj h).1 ▸ List.mem_cons_self) hc
  | joined connective left right ihl ihr =>
    cases e₂ with
    | condition y =>
      obtain ⟨c, text, htext, hc⟩ := y.exists_cons
      have hy : (condition y).toText.toList = c :: text := htext
      rw [hy, toList_toText_joined] at h
      exact absurd ((List.cons.inj h).1 ▸ List.mem_cons_self) hc
    | joined connective' left' right' =>
      simp only [toList_toText_joined, List.cons_append, List.append_assoc, List.cons.injEq,
        true_and] at h
      obtain ⟨rfl, hjoin⟩ := ihl (delimited_blank _) (delimited_blank _) h
      obtain ⟨rfl, hright⟩ := Connective.symbol_append_inj (List.tail_eq_of_cons_eq hjoin)
      obtain ⟨rfl, hclose⟩ :=
        ihr (delimited_paren _) (delimited_paren _) (List.tail_eq_of_cons_eq hright)
      exact ⟨rfl, List.tail_eq_of_cons_eq hclose⟩

theorem eq_of_toText_eq {e₁ e₂ : Expression} (h : e₁.toText = e₂.toText) : e₁ = e₂ :=
  (toText_append_inj delimited_nil delimited_nil (congrArg (·.toList ++ []) h)).1

end Expression

/-- **An expression is told by its normal text**, whatever texts and lists it compares
    with and however its conditions are grouped. -/
theorem normal_text_tells_expression {e₁ e₂ : Expression} : e₁.toText = e₂.toText ↔ e₁ = e₂ :=
  ⟨Expression.eq_of_toText_eq, congrArg Expression.toText⟩

end TaskQuery
