/-
  TaskQuery — how texts of instants end.

  * `ReadTo text rest`: a reader went on to `rest`, last over a character that is no blank;
    every reader of a part does so, but for those of a single mark and of a fraction, which
    may be empty;
  * `ofText?_endsSolid`: a text that is read as an instant does not end in a blank.
-/
import TaskQuery.Calendar.Reading
import TaskQuery.Proofs.Display.Escapes

namespace TaskQuery.Instant

variable {text rest more : List Char} {n width : Nat} {c : Char}

/-- A reader went on to `rest`, last over a character that is no blank. -/
def ReadTo (text rest : List Char) : Prop :=
  ∃ front c, text = front ++ c :: rest ∧ Text.isBlank c = false

theorem ReadTo.of_suffix (hsuffix : more <:+ text) (h : ReadTo more rest) : ReadTo text rest := by
  obtain ⟨before, rfl⟩ := hsuffix
  obtain ⟨front, c, rfl, hc⟩ := h
  exact ⟨before ++ front, c, (List.append_assoc _ _ _).symm, hc⟩

theorem ReadTo.suffix (h : ReadTo text rest) : rest <:+ text := by
  obtain ⟨front, c, rfl, -⟩ := h
  exact (List.suffix_cons c rest).trans (List.suffix_append _ _)

/-! ## Parts -/

theorem expect?_suffix (h : expect? c text = some rest) : rest <:+ text := by
  cases text with
  | nil => cases h
  | cons d text =>
    rw [expect?, Option.ite_none_right_eq_some] at h
    obtain ⟨-, h⟩ := h
    cases h
    exact List.suffix_cons _ _

theorem twoDigits?_readTo (h : twoDigits? text = some (n, rest)) : ReadTo text rest := by
  match text, h with
  | a :: b :: text, h =>
    rw [twoDigits?, Option.ite_none_right_eq_some] at h
    obtain ⟨⟨-, hb⟩, h⟩ := h
    cases h
    exact ⟨[a], b, rfl, Text.isBlank_of_isDigit hb⟩

/-- A text that goes on over at least one digit ends in a digit there. -/
theorem readTo_of_digits {digits : List Char} (hne : digits ≠ [])
    (hdigits : ∀ c ∈ digits, c.isDigit) (rest : List Char) : ReadTo (digits ++ rest) rest := by
  refine ⟨digits.dropLast, digits.getLast hne, ?_,
    Text.isBlank_of_isDigit (hdigits _ (List.getLast_mem hne))⟩
  rw [← List.singleton_append, ← List.append_assoc, List.dropLast_concat_getLast]

theorem number?_readTo (h : number? width text = some (n, rest)) : ReadTo text rest := by
  simp only [number?, Option.ite_none_left_eq_some, Option.some.injEq, Prod.mk.injEq] at h
  obtain ⟨hne, -, rfl⟩ := h
  have hprefix : (text.take width).takeWhile Char.isDigit <+: text :=
    (List.takeWhile_prefix _).trans (List.take_prefix _ _)
  have hread := readTo_of_digits hne (fun c hc => List.mem_takeWhile_imp hc)
    (text.drop ((text.take width).takeWhile Char.isDigit).length)
  rwa [List.prefix_iff_eq_append.1 hprefix] at hread

theorem trimStart_suffix (text : List Char) : Text.trimStart text <:+ text :=
  List.dropWhile_suffix _

theorem spacedNumber?_readTo (h : spacedNumber? width text = some (n, rest)) : ReadTo text rest :=
  (number?_readTo h).of_suffix (trimStart_suffix text)

theorem year?_readTo {year : Int} (h : year? text = some (year, rest)) : ReadTo text rest := by
  refine ReadTo.of_suffix (trimStart_suffix text) ?_
  unfold year? at h
  split at h
  · rename_i after htext
    obtain ⟨⟨m, left⟩, hnumber, heq⟩ := Option.map_eq_some_iff.1 h
    cases heq
    rw [htext]
    exact (number?_readTo hnumber).of_suffix (List.suffix_cons _ _)
  · rename_i after htext
    obtain ⟨⟨m, left⟩, hnumber, heq⟩ := Option.map_eq_some_iff.1 h
    cases heq
    rw [htext]
    exact (number?_readTo hnumber).of_suffix (List.suffix_cons _ _)
  · obtain ⟨⟨m, left⟩, hnumber, heq⟩ := Option.map_eq_some_iff.1 h
    cases heq
    exact number?_readTo hnumber

/-- A fraction is empty, or ends in a digit. -/
theorem fraction?_readTo (h : fraction? text = some (n, rest)) :
    rest = text ∨ ReadTo text rest := by
  unfold fraction? at h
  split at h
  · rename_i after
    simp only [Option.ite_none_left_eq_some, Option.some.injEq, Prod.mk.injEq] at h
    obtain ⟨hne, -, rfl⟩ := h
    have hread := readTo_of_digits hne (fun c hc => List.mem_takeWhile_imp hc)
      (after.dropWhile Char.isDigit)
    rw [List.takeWhile_append_dropWhile] at hread
    exact Or.inr (hread.of_suffix (List.suffix_cons '.' after))
  · cases h
    exact Or.inl rfl

theorem fraction?_suffix (h : fraction? text = some (n, rest)) : rest <:+ text := by
  rcases fraction?_readTo h with rfl | h
  · exact List.suffix_refl _
  · exact h.suffix

theorem offset?_readTo {offset : Int} (h : offset? text = some (offset, rest)) :
    ReadTo text rest := by
  cases text with
  | nil => cases h
  | cons c text =>
    rw [offset?] at h
    split at h
    · rename_i hc
      cases h
      rcases hc with rfl | rfl
      · exact ⟨[], 'Z', rfl, by decide⟩
      · exact ⟨[], 'z', rfl, by decide⟩
    split at h
    · simp only [bind, Option.bind_eq_some_iff, Option.ite_none_right_eq_some, Option.some.injEq,
        Prod.mk.injEq] at h
      obtain ⟨⟨hours, left⟩, hhours, colon, hcolon, ⟨minutes, right⟩, hminutes, -, -, rfl⟩ := h
      have hsuffix : colon <:+ text :=
        (expect?_suffix hcolon).trans (twoDigits?_readTo hhours).suffix
      exact (twoDigits?_readTo hminutes).of_suffix (hsuffix.trans (List.suffix_cons c text))
    · cases h

theorem looseDate?_readTo {date : Date} (h : looseDate? text = some (date, rest)) :
    ReadTo text rest := by
  simp only [looseDate?, bind, Option.bind_eq_some_iff, Option.some.injEq, Prod.mk.injEq] at h
  obtain ⟨⟨year, left⟩, hyear, left, hleft, ⟨month, right⟩, hmonth, right, hright, ⟨day, last⟩,
    hday, -, rfl⟩ := h
  have hsuffix := (expect?_suffix hleft).trans (year?_readTo hyear).suffix
  have hsuffix := (spacedNumber?_readTo hmonth).suffix.trans hsuffix
  exact (spacedNumber?_readTo hday).of_suffix ((expect?_suffix hright).trans hsuffix)

/-! ## Instants -/

/-- The letter or blank between a date and a time is one of three. -/
theorem separator_suffix
    (h : (expect? 'T' text <|> expect? 't' text <|> expect? ' ' text) = some rest) :
    rest <:+ text := by
  simp only [Option.orElse_eq_orElse, Option.orElse_eq_or, Option.or_eq_some_iff] at h
  rcases h with h | ⟨-, h | ⟨-, h⟩⟩ <;> exact expect?_suffix h

/-- What goes on after a part reads to the end if it does so from what the part leaves. -/
theorem ReadTo.of_bind {α β : Type} {x : Option α} {k : α → Option β} {i : β} {after : α → List Char}
    (h : x.bind k = some i) (hafter : ∀ a, x = some a → after a <:+ text)
    (hk : ∀ a, k a = some i → ReadTo (after a) []) : ReadTo text [] := by
  obtain ⟨a, ha, h⟩ := Option.bind_eq_some_iff.1 h
  exact (hk a h).of_suffix (hafter a ha)

section

variable {i : Instant}

theorem ofOffsetText?_readTo (h : ofOffsetText? text = some i) : ReadTo text [] := by
  have hdigits {text : List Char} (a : Nat × List Char) (ha : twoDigits? text = some a) :
      a.2 <:+ text := (twoDigits?_readTo ha).suffix
  have hmark {c : Char} {text : List Char} (rest : List Char) (h : expect? c text = some rest) :
      rest <:+ text := expect?_suffix h
  unfold ofOffsetText? at h
  refine .of_bind h hdigits fun ⟨century, text⟩ h => ?_
  refine .of_bind h hdigits fun ⟨years, text⟩ h => ?_
  refine .of_bind h hmark fun text h => ?_
  refine .of_bind h hdigits fun ⟨month, text⟩ h => ?_
  refine .of_bind h hmark fun text h => ?_
  refine .of_bind h hdigits fun ⟨day, text⟩ h => ?_
  refine .of_bind h (fun _ => separator_suffix) fun text h => ?_
  refine .of_bind h hdigits fun ⟨hour, text⟩ h => ?_
  refine .of_bind h hmark fun text h => ?_
  refine .of_bind h hdigits fun ⟨minute, text⟩ h => ?_
  refine .of_bind h hmark fun text h => ?_
  refine .of_bind h hdigits fun ⟨second, text⟩ h => ?_
  refine .of_bind h (fun _ => fraction?_suffix) fun ⟨nano, text⟩ h => ?_
  -- The offset is read to the end; all the parts in front of it only move on.
  obtain ⟨⟨offset, rest⟩, hoffset, h⟩ := Option.bind_eq_some_iff.1 h
  obtain ⟨rfl, -⟩ := Option.ite_none_right_eq_some.1 h
  exact offset?_readTo hoffset

theorem ofPlainText?_readTo (h : ofPlainText? text = some i) : ReadTo text [] := by
  have hnumber {text : List Char} (a : Nat × List Char) (ha : spacedNumber? 2 text = some a) :
      a.2 <:+ text := (spacedNumber?_readTo ha).suffix
  have hmark {c : Char} {text : List Char} (rest : List Char) (h : expect? c text = some rest) :
      rest <:+ text := expect?_suffix h
  unfold ofPlainText? at h
  refine .of_bind h (fun _ hdate => (looseDate?_readTo hdate).suffix) fun ⟨date, text⟩ h => ?_
  refine .of_bind h hmark fun text h => ?_
  refine .of_bind h hnumber fun ⟨hour, text⟩ h => ?_
  refine .of_bind h hmark fun text h => ?_
  refine .of_bind h hnumber fun ⟨minute, text⟩ h => ?_
  refine .of_bind h hmark fun text h => ?_
  obtain ⟨⟨second, text⟩, hsecond, h⟩ := Option.bind_eq_some_iff.1 h
  obtain ⟨⟨nano, rest⟩, hfraction, h⟩ := Option.bind_eq_some_iff.1 h
  obtain ⟨rfl, -⟩ := Option.ite_none_right_eq_some.1 h
  -- The seconds are read to the end where there is no fraction.
  rcases fraction?_readTo hfraction with rfl | hfraction
  · exact spacedNumber?_readTo hsecond
  · exact hfraction.of_suffix (spacedNumber?_readTo hsecond).suffix

theorem ofDateText?_readTo (h : ofDateText? text = some i) : ReadTo text [] := by
  unfold ofDateText? at h
  obtain ⟨⟨date, rest⟩, hdate, h⟩ := Option.bind_eq_some_iff.1 h
  obtain ⟨rfl, -⟩ := Option.ite_none_right_eq_some.1 h
  exact looseDate?_readTo hdate

/-- A text that is read as an instant ends in a character that is no blank. -/
theorem ofText?_endsSolid {text : String} (h : ofText? text = some i) : EndsSolid text.toList := by
  simp only [ofText?, Option.orElse_eq_orElse, Option.orElse_eq_or, Option.or_eq_some_iff] at h
  rcases h with h | ⟨-, h | ⟨-, h⟩⟩
  · exact ofOffsetText?_readTo h
  · exact ofPlainText?_readTo h
  · exact ofDateText?_readTo h

end

end TaskQuery.Instant
