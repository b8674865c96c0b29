/-
  TaskQuery — dates in order, and ranges of dates.

  In a query a date needs no quotes: it is one word, and neither a number nor another word
  with a meaning.  Two texts that are dates are ordered by the instants they stand for.

  * `DateText.compare?_text`: the order of the texts is the order of the nanoseconds;
  * `DateText.literalOf_text` and `DateText.itemValue_text`: in a condition a date stands for
    its text;
  * `rangeQuery f x y`: the query for the dates from `x` on and before `y`;
    `parseQuery_rangeQuery`: it is accepted;
  * `dates_compare_chronologically`: two spellings of an instant are equal, and a range holds
    exactly the instants in between.
-/
import TaskQuery.Proofs.Calendar.DateText
import TaskQuery.Proofs.Query.Composition
import TaskQuery.Proofs.Query.CurrentInstant
import TaskQuery.Proofs.Text.LowerCase

namespace TaskQuery

/-! ## Words that begin with digits -/

theorem toLower_of_isDigit {c : Char} (hc : c.isDigit) : c.toLower = c := by
  have hrange : 48 ≤ c.toNat ∧ c.toNat ≤ 57 := Char.isDigit_iff_toNat.1 hc
  refine dif_neg ?_
  rintro ⟨hletter, -⟩
  have hcode : 65 ≤ c.toNat := by simpa [UInt32.le_iff_toNat_le] using hletter
  omega

theorem Number.ofWord?_of_isDigit {c : Char} (hc : c.isDigit) (negative : Bool)
    (rest : List Char) : ofWord? negative (c :: rest) = none := by
  have hother (word : String) (hnot : word.toList.head?.any Char.isDigit = false) :
      String.ofList ((c :: rest).map Char.toLower) ≠ word := by
    rintro rfl
    simp [toLower_of_isDigit hc, hc] at hnot
  rw [ofWord?, if_neg (not_or.2 ⟨hother _ (by decide), hother _ (by decide)⟩),
    if_neg (hother _ (by decide))]

/-! ## Dates are words -/

/-- The characters of dates that are no digits. -/
def DateText.marks : List Char := ['-', ':', 'T', '.', 'Z', '+']

namespace Instant

variable {tail : List Char} {date : Date} {hour minute second : Nat}

theorem marked_padDigits (width n : Nat) :
    ∀ c ∈ padDigits width n, c.isDigit ∨ c ∈ DateText.marks :=
  fun _ hc => Or.inl (isDigit_of_mem_padDigits hc)

theorem marked_dateBefore (htail : ∀ c ∈ tail, c.isDigit ∨ c ∈ DateText.marks) :
    ∀ c ∈ dateBefore tail date, c.isDigit ∨ c ∈ DateText.marks := by
  have hdash : '-'.isDigit ∨ '-' ∈ DateText.marks := by decide
  simp only [dateBefore, List.forall_mem_append, List.forall_mem_cons]
  exact ⟨marked_padDigits _ _, hdash, marked_padDigits _ _, hdash, marked_padDigits _ _, htail⟩

theorem marked_timestampBefore (htail : ∀ c ∈ tail, c.isDigit ∨ c ∈ DateText.marks) :
    ∀ c ∈ timestampBefore tail date hour minute second, c.isDigit ∨ c ∈ DateText.marks := by
  have hletter : 'T'.isDigit ∨ 'T' ∈ DateText.marks := by decide
  have hcolon : ':'.isDigit ∨ ':' ∈ DateText.marks := by decide
  refine marked_dateBefore ?_
  simp only [List.forall_mem_append, List.forall_mem_cons]
  exact ⟨hletter, marked_padDigits _ _, hcolon, marked_padDigits _ _, hcolon, marked_padDigits _ _,
    htail⟩

end Instant

theorem WrittenTime.marked_fractionText (t : WrittenTime) :
    ∀ c ∈ t.fractionText, c.isDigit ∨ c ∈ DateText.marks := by
  unfold fractionText
  split
  · exact List.forall_mem_nil _
  · exact List.forall_mem_cons.2 ⟨by decide, fun c hc => Or.inl (t.isDigit c hc)⟩

theorem WrittenOffset.marked_text (offset : WrittenOffset) :
    ∀ c ∈ offset.text, c.isDigit ∨ c ∈ DateText.marks := by
  cases offset with
  | universal => exact List.forall_mem_singleton.2 (by decide)
  | hours behind hour minute =>
    simp only [text, List.forall_mem_append, List.forall_mem_cons]
    exact ⟨by cases behind <;> decide, Instant.marked_padDigits 2 hour, by decide,
      Instant.marked_padDigits 2 minute⟩

namespace DateText

theorem isWord_chars (t : DateText) : IsWord t.chars := by
  have hmarks : ∀ c ∈ marks, Text.isBlank c = false ∧ c ∉ ['"', '\'', '(', ')', '&', '|'] := by
    simp only [marks, List.forall_mem_cons]
    exact ⟨by decide, by decide, by decide, by decide, by decide, by decide,
      List.forall_mem_nil _⟩
  refine isWord_of_digits hmarks ?_
  cases t with
  | day date => exact Instant.marked_dateBefore (List.forall_mem_nil _)
  | timed date time => exact Instant.marked_timestampBefore time.marked_fractionText
  | zoned date time offset =>
    exact Instant.marked_timestampBefore
      (List.forall_mem_append.2 ⟨time.marked_fractionText, offset.marked_text⟩)

/-- All forms begin with the four digits of the year and a dash. -/
theorem exists_chars_eq (t : DateText) :
    ∃ tail, t.chars = Instant.padDigits 4 t.date.year.toNat ++ '-' :: tail := by
  cases t <;> exact ⟨_, rfl⟩

/-- A date begins with a digit. -/
theorem exists_digit (t : DateText) : ∃ c rest, t.chars = c :: rest ∧ c.isDigit := by
  obtain ⟨tail, htail⟩ := t.exists_chars_eq
  cases hyear : Instant.padDigits 4 t.date.year.toNat with
  | nil =>
    have hlt := t.date.year_lt
    obtain ⟨hlength, -⟩ := Instant.padDigits_spec (n := t.date.year.toNat) (by decide : 0 < 4)
      (show _ < 10000 by omega)
    simp [hyear] at hlength
  | cons c digits =>
    refine ⟨c, digits ++ '-' :: tail, by rw [htail, hyear, List.cons_append], ?_⟩
    exact Instant.isDigit_of_mem_padDigits (by rw [hyear]; exact List.mem_cons_self)

/-! ## What a date stands for -/

/-- A date is no numeral: the dash after the year ends the digits, and begins nothing that
    can follow them. -/
theorem numeral_chars (t : DateText) : Number.Numeral.ofChars? t.chars = none := by
  obtain ⟨tail, htail⟩ := t.exists_chars_eq
  have hdigits : ∀ c ∈ Instant.padDigits 4 t.date.year.toNat, c.isDigit :=
    fun c hc => Instant.isDigit_of_mem_padDigits hc
  have hwhole : t.chars.takeWhile Char.isDigit = Instant.padDigits 4 t.date.year.toNat := by
    rw [htail, List.takeWhile_append_of_pos hdigits, List.takeWhile_cons_of_neg (by decide),
      List.append_nil]
  have hrest : t.chars.dropWhile Char.isDigit = '-' :: tail := by
    rw [htail, List.dropWhile_append_of_pos hdigits, List.dropWhile_cons_of_neg (by decide)]
  have hexponent : Number.exponent? ('-' :: tail) = none := by simp [Number.exponent?]
  simp [Number.Numeral.ofChars?, hwhole, hrest, hexponent]

/-- A date is no number: it is no numeral, and the words for numbers begin with letters. -/
theorem number_ofText?_text (t : DateText) : Number.ofText? t.text = none := by
  obtain ⟨c, rest, hchars, hc⟩ := t.exists_digit
  have hsign : Number.splitSign t.chars = (false, t.chars) := by
    rw [hchars]
    exact Number.splitSign_of_ne (by rintro rfl; cases hc) (by rintro rfl; cases hc) rest
  have hword : Number.ofWord? false t.chars = none := by
    rw [hchars]
    exact Number.ofWord?_of_isDigit hc false rest
  rw [Number.ofText?, text, String.toList_ofList, hsign]
  dsimp only
  rw [t.numeral_chars]
  exact hword

/-- A date is no text that begins otherwise. -/
theorem text_ne (t : DateText) {word : String} (hword : word.toList.head?.any Char.isDigit = false) :
    t.text ≠ word := by
  obtain ⟨c, rest, hchars, hc⟩ := t.exists_digit
  rintro rfl
  simp [text, hchars, hc] at hword

/-- In a query a date is a text. -/
theorem literalOf_text (t : DateText) (now : Instant) :
    Parser.literalOf now (.bare t.text) = .text t.text := by
  rw [Parser.literalOf, if_neg Bool.false_ne_true, if_neg (t.text_ne (by decide)),
    if_neg (t.text_ne (by decide)), if_neg (t.text_ne (by decide)), t.number_ofText?_text]

theorem not_structural (t : DateText) : .bare t.text ∉ Token.structural := by
  simp only [Token.structural, List.mem_cons, List.not_mem_nil, or_false, Token.mk.injEq, and_true,
    not_or]
  exact ⟨t.text_ne (by decide), t.text_ne (by decide), t.text_ne (by decide), t.text_ne (by decide)⟩

/-- A date is no name of a level. -/
theorem itemValue_text (t : DateText) (f : Field) : itemValue f t.text = .text t.text := by
  obtain ⟨c, rest, hchars, hc⟩ := t.exists_digit
  have hlower : (Text.lowercase t.text).toList.head? = some c := by
    have hrange : 48 ≤ c.toNat ∧ c.toNat ≤ 57 := Char.isDigit_iff_toNat.1 hc
    have hletter : 'A'.toNat = 65 := rfl
    have hsigma : c ≠ 'Σ' := by
      rintro rfl
      cases hc
    rw [Text.lowercase, String.toList_ofList, text, String.toList_ofList, hchars, Text.lowerFrom,
      if_neg hsigma, Text.lowerChar_of_lt (by omega)]
    rfl
  have hname : Priority.ofName? t.text = none := by
    rw [Priority.ofName?, Priority.ofExactName?, List.find?_eq_none]
    intro p _ heq
    rw [← of_decide_eq_true heq] at hlower
    cases p <;> cases hlower <;> cases hc
  rw [itemValue, hname, ite_self]

/-- **Two dates are in the order of their nanoseconds.** -/
theorem compare?_text (a b : DateText) : (FieldValue.text a.text).compare? (.text b.text) =
    some (compare a.nanoseconds b.nanoseconds) := by
  rw [FieldValue.compare?, FieldValue.compareTexts, a.ofText?_text, b.ofText?_text,
    ← compare_instant]

/-! ## Conditions -/

variable {now : Instant} {f : Field} {o : Operator} {record : Record} {query : String}

/-- A date in a condition needs no quotes. -/
theorem derives_condition (t : DateText) (now : Instant) (ho : o.takesList = false)
    (hquery : query.toList = f.name.toList ++ ' ' :: (o.symbol.toList ++ ' ' :: t.text.toList)) :
    QuotesClosed query ∧ DerivesCondition now (tokenize query) ⟨f, o, .text t.text⟩ := by
  have hne : t.chars ≠ [] := by
    obtain ⟨c, rest, hchars, -⟩ := t.exists_digit
    rw [hchars]
    exact List.cons_ne_nil c rest
  obtain ⟨hopen, htokens⟩ := tokensOf_word t.isWord_chars hne
  rw [text, String.toList_ofList] at hquery
  rw [QuotesClosed, tokenize_eq, hquery, ← literalOf_text t now]
  exact derives_conditionText ho hopen htokens t.not_structural

/-- A condition on a field with a date compares the nanoseconds. -/
theorem holds_text {a t : DateText} (ha : record f = .text a.text) (ho : o ∈ Operator.ordering) :
    Condition.holds ⟨f, o, .text t.text⟩ record =
      o.accepts (compare a.nanoseconds t.nanoseconds) := by
  rw [holds_of_ordering (text_ne_list _) ho, literalValue, itemValue_text, ha, ordered,
    compare?_text]

end DateText

/-! ## Ranges -/

/-- The query for the dates of a field from one date on and before another. -/
def rangeQuery (f : Field) (first last : String) : String :=
  (f.name ++ " >= " ++ first) ++ " && " ++ (f.name ++ " < " ++ last)

theorem parseQuery_rangeQuery (f : Field) (x y : DateText) (now : Instant) :
    parseQuery (rangeQuery f x.text y.text) now = .ok (some (.and
      (.condition ⟨f, .ge, .text x.text⟩) (.condition ⟨f, .lt, .text y.text⟩))) := by
  have hfirst : QuotesClosed (f.name ++ " >= " ++ x.text) ∧
      DerivesCondition now (tokenize (f.name ++ " >= " ++ x.text)) ⟨f, .ge, .text x.text⟩ :=
    x.derives_condition now rfl (by simp [Operator.symbol])
  have hlast : QuotesClosed (f.name ++ " < " ++ y.text) ∧
      DerivesCondition now (tokenize (f.name ++ " < " ++ y.text)) ⟨f, .lt, .text y.text⟩ :=
    y.derives_condition now rfl (by simp [Operator.symbol])
  refine parseQuery_eq_some_iff.2 ?_
  rw [rangeQuery, tokenize_and hfirst.1]
  have htwo : 1 + 1 ≤ maxConditions := by decide
  exact (Derives.term (.and (.operand (.condition hfirst.2)) hlast.2)).grammatical htwo

/-- **Dates are compared by the instants they stand for.**  The order of two dates is that of
    the nanoseconds since the start of year 0, which add up the lengths of years and months,
    the time of day and the offset; so two spellings of an instant are equal, and no others.
    The query for the dates from `x` on and before `y` is accepted, and keeps a record exactly
    if its date lies there. -/
theorem dates_compare_chronologically :
    (∀ a b : DateText, (FieldValue.text a.text).compare? (.text b.text) =
      some (compare a.nanoseconds b.nanoseconds)) ∧
    (∀ a b : DateText, (FieldValue.text a.text).compare? (.text b.text) = some .eq ↔
      a.nanoseconds = b.nanoseconds) ∧
    (∀ (x y a : DateText) (now : Instant) (f : Field) (record : Record),
      record f = .text a.text →
        Decides (rangeQuery f x.text y.text) now record
          (x.nanoseconds ≤ a.nanoseconds ∧ a.nanoseconds < y.nanoseconds)) := by
  refine ⟨DateText.compare?_text, fun a b => ?_, fun x y a now f record ha => ?_⟩
  · rw [DateText.compare?_text, Option.some.injEq, Int.compare_eq_eq]
  · refine ⟨_, parseQuery_rangeQuery f x y now, ?_⟩
    rw [keeps, Expression.holds, Expression.holds, Expression.holds,
      DateText.holds_text ha (by decide), DateText.holds_text ha (by decide), Bool.and_eq_true]
    refine and_congr Int.isGE_compare ?_
    rw [← Int.compare_eq_lt, Operator.accepts]
    cases compare a.nanoseconds y.nanoseconds <;> decide

/-- The first instant of a range is in it, however it is spelled. -/
theorem dates_compare_chronologically_across_midnight :
    let task : Task := { dueDate := some "2024-02-29T22:30:00.000Z" }
    (∃ due : DateText, task.record .dueDate = .text due.text) ∧
      Decides "dueDate >= 2024-03-01T00:00:00+01:30 && dueDate < 2024-03-02" ⟨0, 0⟩ task.record
        True := by
  intro task
  let first : DateText := .zoned ⟨⟨2024, 3, 1⟩, by decide, by decide, by decide⟩ .midnight
    (.hours false 1 30 (by decide) (by decide))
  let last : DateText := .day ⟨⟨2024, 3, 2⟩, by decide, by decide, by decide⟩
  let due : DateText := .zoned ⟨⟨2024, 2, 29⟩, by decide, by decide, by decide⟩
    ⟨22, 30, 0, ['0', '0', '0'], by decide, by decide, by decide, by simp, by decide⟩ .universal
  have hdue : task.record .dueDate = .text due.text := by decide +kernel
  have hrange := dates_compare_chronologically.2.2 first last due ⟨0, 0⟩ .dueDate task.record hdue
  have hin : first.nanoseconds ≤ due.nanoseconds ∧ due.nanoseconds < last.nanoseconds := by
    decide +kernel
  rw [eq_true hin] at hrange
  have hquery : rangeQuery .dueDate first.text last.text =
      "dueDate >= 2024-03-01T00:00:00+01:30 && dueDate < 2024-03-02" := by decide +kernel
  rw [hquery] at hrange
  exact ⟨⟨due, hdue⟩, hrange⟩

end TaskQuery
