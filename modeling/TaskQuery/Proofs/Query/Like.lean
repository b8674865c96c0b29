/-
  TaskQuery — what `like` finds.

  A pattern is searched in lower case.  Lower-casing keeps commas apart from all that
  stands around them, but a capital sigma at the end of a pattern becomes the form that
  ends a word, also where the text goes on.

  * `Literal.Shows v s`: a single value has the text `s`; `pattern?_eq`: it is searched in
    lower case;
  * `exists_part_of_intercalate`: what has no separator lies within one part;
  * `like_finds_substrings_iff`: which patterns are found in every text that holds them;
  * `like_finds_in_items`: in a collection, `like` looks at one item at a time.
-/
import TaskQuery.Proofs.Lists
import TaskQuery.Proofs.Query.NormalText
import TaskQuery.Proofs.Text.LowerCase
import TaskQuery.Task.Basic

namespace TaskQuery

variable {field : Field} {record : Record} {pattern : Literal} {needle value : String}

/-! ## Patterns -/

/-- A single value has a text; numbers are finite. -/
def Literal.Shows : Literal → String → Prop
  | text value, s => s = value
  | number value, s => value.isFinite ∧ s = value.toText
  | bool value, s => s = boolText value
  | list _, _ => False

theorem Literal.shows_text (s : String) : (Literal.text s).Shows s := rfl

theorem Number.lowercase_toText {n : Number} (h : n.isFinite) :
    Text.lowercase n.toText = n.toText := by
  have hsmall : ∀ c ∈ n.toText.toList, c.toNat < 'A'.toNat := by
    intro c hc
    rcases Number.isPlainChar_toText h c hc with hdigit | rfl | rfl
    · have hrange : 48 ≤ c.toNat ∧ c.toNat ≤ 57 := Char.isDigit_iff_toNat.1 hdigit
      have hletter : 'A'.toNat = 65 := rfl
      omega
    · decide
    · decide
  rw [← String.toList_inj, Text.lowercase_eq, Text.lowerBetween_eq_self hsmall]

/-- The text of a single value is searched in lower case. -/
theorem Literal.Shows.pattern?_eq (h : pattern.Shows needle) :
    pattern? pattern = some (Text.lowercase needle) := by
  cases pattern with
  | text value =>
    cases h
    rfl
  | number value =>
    obtain ⟨hfinite, rfl⟩ := h
    rw [pattern?, Number.lowercase_toText hfinite]
  | bool value =>
    cases h
    cases value <;> decide +kernel
  | list items => exact h.elim

/-- `like` searches the lower-case text of the field for that of the pattern. -/
theorem holds_like_iff (h : pattern.Shows needle) (hvalue : (record field).toText = some value) :
    Condition.holds ⟨field, .like, pattern⟩ record ↔
      (Text.lowercase needle).toList <:+: (Text.lowercase value).toList := by
  have hlike : Condition.holds ⟨field, .like, pattern⟩ record = isLike (record field) pattern := by
    cases pattern with
    | list items => exact h.elim
    | text | number | bool => rfl
  rw [hlike, isLike, h.pattern?_eq, hvalue]
  exact occursIn_iff

/-! ## Texts -/

/-- **A pattern is found in every text that holds it exactly if its capital sigmas are
    settled**: within the pattern stands all that decides whether they end a word.  That
    is so of all patterns without a capital sigma. -/
theorem like_finds_substrings_iff (field : Field) (pattern : String) :
    (∀ (record : Record) (value : String), record field = .text value →
      pattern.toList <:+: value.toList →
        Condition.holds ⟨field, .like, .text pattern⟩ record) ↔
      Text.SigmasSettled pattern.toList := by
  constructor
  · intro hfinds
    by_contra hnot
    obtain ⟨longer, hinfix, hmissing⟩ := Text.exists_not_infix hnot
    have hholds := hfinds (fun _ => .text (String.ofList longer)) _ rfl
      (by rwa [String.toList_ofList])
    rw [holds_like_iff (Literal.shows_text pattern) rfl, Text.lowercase_eq, Text.lowercase_eq,
      String.toList_ofList] at hholds
    exact hmissing hholds
  · rintro hsettled record value hvalue ⟨u, v, huv⟩
    have htext : (record field).toText = some value := by rw [hvalue]; rfl
    rw [holds_like_iff (Literal.shows_text pattern) htext, Text.lowercase_eq, Text.lowercase_eq,
      ← huv, List.append_assoc, Text.lowerBetween_append, Text.lowerBetween_append]
    have hsame : Text.lowerBetween ([] ++ (u.reverse ++ [])) ([] ++ (v ++ [])) pattern.toList =
        Text.lowerBetween [] [] pattern.toList := by
      refine Text.lowerBetween_settled _ _ fun a b htext => ?_
      simpa using hsettled a b htext
    rw [List.nil_append, List.nil_append] at hsame
    rw [hsame]
    exact List.infix_append' _ _ _

/-- A word is not found in a longer word that begins with it. -/
theorem like_misses_sigma :
    "ΟΔΟΣ".toList <:+: "ΟΔΟΣΗΜΑΝΣΗ".toList ∧
      Condition.holds ⟨.project, .like, .text "ΟΔΟΣ"⟩
        (Task.record { project := some "ΟΔΟΣΗΜΑΝΣΗ" }) = false := by
  decide +kernel

/-! ## Collections -/

/-- What has no separator and occurs in a join lies within one of the parts. -/
theorem exists_part_of_intercalate {separator : Char} {parts : List (List Char)}
    {before word after : List Char} (hne : word ≠ []) (hword : separator ∉ word)
    (h : [separator].intercalate parts = before ++ (word ++ after)) :
    ∃ first part last u v, parts = first ++ part :: last ∧ part = u ++ (word ++ v) ∧
      before = first.flatMap (· ++ [separator]) ++ u ∧
      after = v ++ last.flatMap (separator :: ·) := by
  have hjoin (part : List Char) (parts : List (List Char)) :
      separator :: [separator].intercalate (part :: parts) =
      (part :: parts).flatMap (separator :: ·) := by
    rw [Text.intercalate_cons]
    rfl
  induction parts generalizing before with
  | nil => simp [hne] at h
  | cons part parts ih =>
    cases parts with
    | nil => exact ⟨[], part, [], before, after, rfl, by simpa using h, rfl, by simp⟩
    | cons next parts =>
      rw [List.intercalate_cons_cons, List.append_assoc, List.singleton_append] at h
      rcases List.append_eq_append_iff.1 h with ⟨middle, rfl, hmiddle⟩ | ⟨u, rfl, hu⟩
      · cases middle with
        | nil =>
          -- the word would start with the separator
          obtain ⟨c, word, rfl⟩ := List.exists_cons_of_ne_nil hne
          simp only [List.nil_append, List.cons_append, List.cons.injEq] at hmiddle
          simp [hmiddle.1] at hword
        | cons c middle =>
          simp only [List.cons_append, List.cons.injEq] at hmiddle
          obtain ⟨rfl, hmiddle⟩ := hmiddle
          obtain ⟨first, item, last, u, v, hparts, hitem, rfl, hafter⟩ := ih hmiddle
          refine ⟨part :: first, item, last, u, v, ?_, hitem, ?_, hafter⟩
          · rw [hparts, List.cons_append]
          · simp
      · rcases List.append_eq_append_iff.1 hu with ⟨v, rfl, hv⟩ | ⟨w, rfl, hw⟩
        · exact ⟨[], _, next :: parts, before, v, rfl, rfl, by simp, by rw [← hjoin, hv]⟩
        · cases w with
          | nil =>
            refine ⟨[], _, next :: parts, before, [], rfl, by simp, by simp, ?_⟩
            rw [List.nil_append, ← hjoin, hw, List.nil_append]
          | cons c w =>
            -- the separator would stand in the word
            simp only [List.cons_append, List.cons.injEq] at hw
            simp [hw.1] at hword

/-- A part of a join occurs in it. -/
theorem infix_intercalate {α : Type} {separator part : List α} {parts : List (List α)}
    (h : part ∈ parts) : part <:+: separator.intercalate parts := by
  obtain ⟨front, back, rfl⟩ := List.append_of_mem h
  exact ⟨_, _, by rw [Text.intercalate_append_cons, List.append_assoc]⟩

/-- The texts before an item of a collection, in lower case. -/
def itemsBefore (items : List String) : List Char :=
  items.flatMap fun item => (Text.lowercase item).toList ++ [',']

/-- The texts after an item of a collection, in lower case. -/
def itemsAfter (items : List String) : List Char :=
  items.flatMap fun item => ',' :: (Text.lowercase item).toList

theorem lowercase_items (items : List String) : (Text.lowercase (",".intercalate items)).toList =
    [','].intercalate (items.map fun item => (Text.lowercase item).toList) := by
  rw [Text.lowercase_intercalate, String.toList_intercalate, List.map_map]
  rfl

/-- What has no comma and occurs in the joined text of a collection lies within one item. -/
theorem exists_item_of_occurs {items : List String} {before word after : List Char}
    (hne : word ≠ []) (hword : ',' ∉ word)
    (h : (Text.lowercase (",".intercalate items)).toList = before ++ (word ++ after)) :
    ∃ first item last u v, items = first ++ item :: last ∧
      (Text.lowercase item).toList = u ++ (word ++ v) ∧
      before = itemsBefore first ++ u ∧ after = v ++ itemsAfter last := by
  rw [lowercase_items] at h
  obtain ⟨first, part, last, u, v, hparts, hpart, hbefore, hafter⟩ :=
    exists_part_of_intercalate hne hword h
  obtain ⟨first, rest, rfl, rfl, hrest⟩ := List.map_eq_append_iff.1 hparts
  obtain ⟨item, last, rfl, rfl, rfl⟩ := List.map_eq_cons_iff.1 hrest
  refine ⟨first, item, last, u, v, rfl, hpart, ?_, ?_⟩
  · rw [hbefore, itemsBefore, List.flatMap_map]
  · rw [hafter, itemsAfter, List.flatMap_map]

/-- **In a collection, `like` looks at one item at a time.**  A pattern that is a text without
    commas, a finite number or a truth value is found in the collection exactly if it is
    found in one of the items; every place where it stands in the joined text lies within
    one item; and nothing is found in an empty collection. -/
theorem like_finds_in_items {items : List String} (hitems : record field = .list items)
    (hpattern : pattern.Shows needle) (hne : needle ≠ "") (hcomma : ',' ∉ needle.toList) :
    (Condition.holds ⟨field, .like, pattern⟩ record ↔
      ∃ item ∈ items, (Text.lowercase needle).toList <:+: (Text.lowercase item).toList) ∧
    (∀ before after, (Text.lowercase (",".intercalate items)).toList =
        before ++ ((Text.lowercase needle).toList ++ after) →
      ∃ first item last u v, items = first ++ item :: last ∧
        (Text.lowercase item).toList = u ++ ((Text.lowercase needle).toList ++ v) ∧
        before = itemsBefore first ++ u ∧ after = v ++ itemsAfter last) ∧
    (items = [] → Condition.holds ⟨field, .like, pattern⟩ record = false) := by
  have hword : (Text.lowercase needle).toList ≠ [] := by
    intro hnil
    have hlength := Text.length_le_length_lowerFrom [] needle.toList
    rw [Text.lowercase, String.toList_ofList] at hnil
    rw [hnil, List.length_nil, Nat.le_zero, List.length_eq_zero_iff] at hlength
    exact hne (String.toList_eq_nil_iff.1 hlength)
  have hnot : ',' ∉ (Text.lowercase needle).toList := by
    rw [Text.lowercase_eq]
    exact Text.comma_not_mem_lowerBetween hcomma
  have hholds : Condition.holds ⟨field, .like, pattern⟩ record ↔
      ∃ item ∈ items, (Text.lowercase needle).toList <:+: (Text.lowercase item).toList := by
    rw [holds_like_iff hpattern (by rw [hitems]; rfl)]
    constructor
    · rintro ⟨before, after, h⟩
      rw [List.append_assoc] at h
      obtain ⟨first, item, last, u, v, rfl, hitem, -⟩ := exists_item_of_occurs hword hnot h.symm
      exact ⟨item, by simp, u, v, by rw [hitem, List.append_assoc]⟩
    · rintro ⟨item, hmem, hinfix⟩
      rw [lowercase_items]
      exact hinfix.trans (infix_intercalate (List.mem_map_of_mem hmem))
  refine ⟨hholds, fun before after h => exists_item_of_occurs hword hnot h, fun hnil => ?_⟩
  subst hnil
  simpa using hholds

/-- A word that ends in a sigma, as the first of two items; no item goes on from the first
    to the second. -/
theorem like_finds_in_items_greek :
    let task : Task := { labels := ["ΟΔΟΣ", "ΝΕΑ"] }
    Condition.holds ⟨.labels, .like, .text "οδος"⟩ task.record = true ∧
      Condition.holds ⟨.labels, .like, .text "σνε"⟩ task.record = false := by
  intro task
  have hlabels : task.record .labels = .list ["ΟΔΟΣ", "ΝΕΑ"] := rfl
  have hfound := like_finds_in_items hlabels (Literal.shows_text "οδος") (by decide) (by decide)
  have hmissing := like_finds_in_items hlabels (Literal.shows_text "σνε") (by decide) (by decide)
  constructor
  · exact hfound.1.2 ⟨"ΟΔΟΣ", List.mem_cons_self, by decide +kernel⟩
  · rw [← Bool.not_eq_true, hmissing.1]
    decide +kernel

end TaskQuery
