/-
  TaskQuery — JSON values that are written are read back.

  * `Reads r text v`: a reader that passes over blanks reads the text as the value, whatever
    follows that does not go on with a numeral;
    `readItems_written` and `readMembers_written`: so items and members are read that are
    written one after the other;
  * `Layout` is a way to write values; `Layout.onOneLine` and `Layout.indented` are the two there
    are;
  * `Readable depth v`: a value has nothing in it that its text does not tell;
    `readNested_write`: such a value is read back from any layout, and `readValue_write` the same
    for a whole text.
-/
import Mathlib.Data.List.DropRight
import TaskQuery.Proofs.Json.Scalars

namespace TaskQuery.Json

/-! ## Blanks -/

/-- A character that may stand between the parts of a text. -/
def IsSpace (c : Char) : Prop :=
  c = ' ' ∨ c = '\n' ∨ c = '\t' ∨ c = '\r'

instance (c : Char) : Decidable (IsSpace c) :=
  inferInstanceAs (Decidable (_ ∨ _ ∨ _ ∨ _))

variable {blanks text rest after : List Char} {c : Char}

theorem skipBlanks_of_not_space (h : ¬ IsSpace c) : skipBlanks (c :: rest) = c :: rest := by
  rw [skipBlanks, List.dropWhile_cons_of_neg]
  simpa [IsSpace] using h

theorem skipBlanks_append (hblanks : ∀ c ∈ blanks, IsSpace c) (text : List Char) :
    skipBlanks (blanks ++ text) = skipBlanks text := by
  refine List.dropWhile_append_of_pos fun c hc => ?_
  simpa [IsSpace] using hblanks c hc

theorem skipBlanks_skipBlanks (text : List Char) : skipBlanks (skipBlanks text) = skipBlanks text :=
  List.dropWhile_idempotent _ _

/-- What is left of a text without its blanks, with more behind it. -/
theorem skipBlanks_append_of_eq (h : skipBlanks text = c :: rest) (after : List Char) :
    skipBlanks (text ++ after) = c :: (rest ++ after) := by
  rw [skipBlanks] at h
  rw [skipBlanks, List.dropWhile_append, h]
  rfl

/-- Blanks do not go on with a numeral, and neither does what follows a value. -/
theorem endsNumeral_append (hblanks : ∀ c ∈ blanks, IsSpace c) (h : EndsNumeral rest) :
    EndsNumeral (blanks ++ rest) := by
  cases blanks with
  | nil => exact h
  | cons c blanks =>
    refine endsNumeral_cons.2 ?_
    rcases hblanks c List.mem_cons_self with rfl | rfl | rfl | rfl <;> decide

/-! ## Items and members -/

/-- A text is read as a value, whatever is behind it that does not go on with a numeral; and it
    does not look like the end of an array. -/
structure Reads (r : Reader Json) (text : List Char) (v : Json) : Prop where
  starts : ∃ c rest, skipBlanks text = c :: rest ∧ c ≠ ']'
  reads : ∀ rest, EndsNumeral rest → r (text ++ rest) = .ok (v, rest)

section

variable {r : Reader Json} {v : Json} {values : List Json} {key : String}
  {member : String × Json} {members : List (String × Json)} {bound : Nat} {left : List Char}

theorem readItems_close (first : Bool) (h : skipBlanks text = ']' :: rest) :
    readItems r first (bound + 1) text = .ok ([], rest) := by
  rw [readItems, h]
  simp

theorem readItems_first (h : skipBlanks text = c :: rest) (hc : c ≠ ']')
    (hitem : r (skipBlanks text) = .ok (v, after))
    (hmore : readItems r false bound after = .ok (values, left)) :
    readItems r true (bound + 1) text = .ok (v :: values, left) := by
  rw [h] at hitem
  rw [readItems, h]
  simp [hc, hitem, hmore, bind, Except.bind, pure, Except.pure]

theorem readItems_more (h : skipBlanks text = ',' :: rest)
    (hhead : (skipBlanks rest).head? ≠ some ']')
    (hitem : r (skipBlanks rest) = .ok (v, after))
    (hmore : readItems r false bound after = .ok (values, left)) :
    readItems r false (bound + 1) text = .ok (v :: values, left) := by
  rw [readItems, h]
  simp [hhead, hitem, hmore, bind, Except.bind, pure, Except.pure]

theorem readMembers_close (first : Bool) (h : skipBlanks text = '\x7d' :: rest) :
    readMembers r first (bound + 1) text = .ok ([], rest) := by
  rw [readMembers, h]
  simp

theorem readMembers_first (h : skipBlanks text = '"' :: rest)
    (hmember : readMember r rest = .ok (member, after))
    (hmore : readMembers r false bound after = .ok (members, left)) :
    readMembers r true (bound + 1) text = .ok (member :: members, left) := by
  rw [readMembers, h]
  simp [hmember, hmore, bind, Except.bind, pure, Except.pure]

theorem readMembers_more {inner : List Char} (h : skipBlanks text = ',' :: rest)
    (hquote : skipBlanks rest = '"' :: inner) (hmember : readMember r inner = .ok (member, after))
    (hmore : readMembers r false bound after = .ok (members, left)) :
    readMembers r false (bound + 1) text = .ok (member :: members, left) := by
  rw [readMembers, h]
  simp [hquote, hmember, hmore, bind, Except.bind, pure, Except.pure]

variable {write : Json → List Char} {indent space : List Char}
  (hr : ∀ text, r (skipBlanks text) = r text) (hindent : ∀ c ∈ indent, IsSpace c)
  (hblanks : ∀ c ∈ blanks, IsSpace c)

include hr

/-- Blanks in front of a value are passed over. -/
theorem Reads.of_blanks (h : Reads r text v) (hblanks : ∀ c ∈ blanks, IsSpace c)
    (hrest : EndsNumeral rest) : r (blanks ++ (text ++ rest)) = .ok (v, rest) := by
  rw [← hr, skipBlanks_append hblanks, hr, h.reads rest hrest]

include hindent hblanks

/-- The items after the first, with the closing bracket. -/
theorem readItems_written (hvalues : ∀ v ∈ values, Reads r (write v) v)
    (hbound : values.length < bound) (rest : List Char) :
    EndsNumeral (values.flatMap (fun v => ',' :: (indent ++ write v)) ++ (blanks ++ ']' :: rest)) ∧
    readItems r false bound
      (values.flatMap (fun v => ',' :: (indent ++ write v)) ++ (blanks ++ ']' :: rest)) =
        .ok (values, rest) := by
  induction values generalizing bound with
  | nil =>
    obtain ⟨bound, rfl⟩ := Nat.exists_eq_add_one.2 hbound
    rw [List.flatMap_nil, List.nil_append]
    have hclose : EndsNumeral (']' :: rest) := endsNumeral_cons.2 (by decide)
    refine ⟨endsNumeral_append hblanks hclose, readItems_close false ?_⟩
    rw [skipBlanks_append hblanks, skipBlanks_of_not_space (by decide)]
  | cons v values ih =>
    obtain ⟨bound, rfl⟩ := Nat.exists_eq_add_one.2 (Nat.zero_lt_of_lt hbound)
    obtain ⟨hv, hvalues⟩ := List.forall_mem_cons.1 hvalues
    obtain ⟨hends, hmore⟩ := ih hvalues (by simpa using hbound)
    obtain ⟨c, text, hstart, hc⟩ := hv.starts
    simp only [List.flatMap_cons, List.cons_append, List.append_assoc]
    refine ⟨endsNumeral_cons.2 (by decide),
      readItems_more (skipBlanks_of_not_space (by decide)) ?_ ?_ hmore⟩
    · rw [skipBlanks_append hindent, skipBlanks_append_of_eq hstart]
      simpa using hc
    · rw [hr, hv.of_blanks hr hindent hends]

omit hindent hblanks in
/-- A member after its opening quote. -/
theorem readMember_written (hspace : ∀ c ∈ space, IsSpace c) (hv : Reads r text v)
    (hrest : EndsNumeral rest) :
    readMember r (key.toList.flatMap escapeChar ++ '"' :: ':' :: (space ++ (text ++ rest))) =
      .ok ((key, v), rest) := by
  have hcolon (text : List Char) : skipBlanks (':' :: text) = ':' :: text :=
    skipBlanks_of_not_space (by decide)
  simp only [readMember, readString_escaped, bind, Except.bind, hcolon,
    hv.of_blanks hr hspace hrest]
  rfl

/-- The members after the first, with the closing brace. -/
theorem readMembers_written (hspace : ∀ c ∈ space, IsSpace c)
    (hmembers : ∀ m ∈ members, Reads r (write m.2) m.2) (hbound : members.length < bound)
    (rest : List Char) :
    EndsNumeral (members.flatMap
      (fun m => ',' :: (indent ++ (writeString m.1 ++ ':' :: (space ++ write m.2)))) ++
        (blanks ++ '\x7d' :: rest)) ∧
    readMembers r false bound (members.flatMap
      (fun m => ',' :: (indent ++ (writeString m.1 ++ ':' :: (space ++ write m.2)))) ++
        (blanks ++ '\x7d' :: rest)) = .ok (members, rest) := by
  induction members generalizing bound with
  | nil =>
    obtain ⟨bound, rfl⟩ := Nat.exists_eq_add_one.2 hbound
    rw [List.flatMap_nil, List.nil_append]
    have hclose : EndsNumeral ('\x7d' :: rest) := endsNumeral_cons.2 (by decide)
    refine ⟨endsNumeral_append hblanks hclose, readMembers_close false ?_⟩
    rw [skipBlanks_append hblanks, skipBlanks_of_not_space (by decide)]
  | cons member members ih =>
    obtain ⟨bound, rfl⟩ := Nat.exists_eq_add_one.2 (Nat.zero_lt_of_lt hbound)
    obtain ⟨hv, hmembers⟩ := List.forall_mem_cons.1 hmembers
    obtain ⟨hends, hmore⟩ := ih hmembers (by simpa using hbound)
    simp only [List.flatMap_cons, writeString, List.cons_append, List.append_assoc,
      List.nil_append] at hends hmore ⊢
    refine ⟨endsNumeral_cons.2 (by decide),
      readMembers_more (skipBlanks_of_not_space (by decide)) ?_
        (readMember_written hr hspace hv hends) hmore⟩
    rw [skipBlanks_append hindent, skipBlanks_of_not_space (by decide)]

end

/-! ## Layouts -/

/-- A value that is written without items or members on lines of their own. -/
def IsFlat : Json → Prop
  | .array (_ :: _) | .object (_ :: _) => False
  | _ => True

/-- A way to write values. -/
structure Layout where
  /-- The text of a value that stands at a level. -/
  write : Nat → Json → List Char
  /-- The blanks in front of what stands at a level. -/
  line : Nat → List Char
  /-- The blanks behind a colon. -/
  space : List Char
  isSpace_line : ∀ level, ∀ c ∈ line level, IsSpace c
  isSpace_space : ∀ c ∈ space, IsSpace c
  write_flat : ∀ level v, IsFlat v → write level v = compactChars v
  write_array : ∀ level v values, write level (.array (v :: values)) =
    '[' :: (line (level + 1) ++ (write (level + 1) v ++
      (values.flatMap (fun v => ',' :: (line (level + 1) ++ write (level + 1) v)) ++
        (line level ++ [']']))))
  write_object : ∀ level m members, write level (.object (m :: members)) =
    '\x7b' :: (line (level + 1) ++ (writeString m.1 ++ ':' :: (space ++ (write (level + 1) m.2 ++
      (members.flatMap (fun m => ',' :: (line (level + 1) ++
        (writeString m.1 ++ ':' :: (space ++ write (level + 1) m.2)))) ++
          (line level ++ ['\x7d']))))))

theorem compactItems_eq (values : List Json) :
    compactItems values = values.flatMap (fun v => ',' :: compactChars v) ++ [']'] := by
  induction values with
  | nil => rfl
  | cons v values ih => simp [compactItems, ih]

theorem compactMembers_eq (members : List (String × Json)) : compactMembers members =
    members.flatMap (fun m => ',' :: (writeString m.1 ++ ':' :: compactChars m.2)) ++ ['\x7d'] := by
  induction members with
  | nil => rfl
  | cons m members ih => simp [compactMembers, ih]

theorem prettyItems_eq (level : Nat) (values : List Json) : prettyItems level values =
    values.flatMap (fun v => ',' :: (lineAt (level + 1) ++ prettyChars (level + 1) v)) ++
      (lineAt level ++ [']']) := by
  induction values with
  | nil => rfl
  | cons v values ih => simp [prettyItems, ih]

theorem prettyMembers_eq (level : Nat) (members : List (String × Json)) :
    prettyMembers level members = members.flatMap (fun m => ',' :: (lineAt (level + 1) ++
      (writeString m.1 ++ ':' :: ([' '] ++ prettyChars (level + 1) m.2)))) ++
        (lineAt level ++ ['\x7d']) := by
  induction members with
  | nil => rfl
  | cons m members ih => simp [prettyMembers, ih]

namespace Layout

/-- Values without blanks. -/
def onOneLine : Layout where
  write _ v := compactChars v
  line _ := []
  space := []
  isSpace_line := by simp
  isSpace_space := by simp
  write_flat _ _ _ := rfl
  write_array _ v values := by simp [compactChars, compactItems_eq]
  write_object _ m members := by simp [compactChars, compactMembers_eq]

/-- Values with every item and member on a line of its own. -/
def indented : Layout where
  write := prettyChars
  line := lineAt
  space := [' ']
  isSpace_line level c hc := by
    rcases List.mem_cons.1 hc with rfl | hc
    · decide
    · rw [List.eq_of_mem_replicate hc]
      decide
  isSpace_space := List.forall_mem_singleton.2 (by decide)
  write_flat level v h := by
    unfold prettyChars
    split
    · cases h
    · cases h
    · rfl
  write_array level v values := by simp [prettyChars, prettyItems_eq]
  write_object level m members := by simp [prettyChars, prettyMembers_eq]

end Layout

/-! ## Values -/

/-- A number is read back from its text. -/
def IsReadBack (n : Number) : Prop :=
  readValue (writeNumber n) = .ok (.number n, [])

/-- Whether a number is all that is read. -/
def isNumber (n : Number) : Except Fault (Json × List Char) → Bool
  | .ok (.number m, []) => m = n
  | _ => false

instance (n : Number) : Decidable (IsReadBack n) :=
  decidable_of_iff (isNumber n (readValue (writeNumber n))) <| by
    unfold IsReadBack isNumber
    split
    · simp_all
    · simp_all

/-- A value has arrays and objects at most `depth` deep, integers of 64 bits, and numbers that are
    read back from their texts. -/
inductive Readable : Nat → Json → Prop
  | null {depth} : Readable depth .null
  | bool {depth} (b : Bool) : Readable depth (.bool b)
  | integer {depth i} : IntegerInRange i → Readable depth (.integer i)
  | number {depth n} : IsReadBack n → Readable depth (.number n)
  | string {depth} (s : String) : Readable depth (.string s)
  | array {depth values} : (∀ v ∈ values, Readable depth v) → Readable (depth + 1) (.array values)
  | object {depth members} : (∀ m ∈ members, Readable depth m.2) →
      Readable (depth + 1) (.object members)

variable {bound depth : Nat} {v : Json}

theorem readNested_skipBlanks (bound depth : Nat) (text : List Char) :
    readNested bound depth (skipBlanks text) = readNested bound depth text := by
  cases depth <;> rw [readNested, readNested, skipBlanks_skipBlanks]

theorem readNested_negative (h : skipBlanks text = '-' :: rest) :
    readNested bound depth text = readNumber true rest := by
  cases depth <;> rw [readNested, h] <;> rfl

theorem readNested_digit (h : skipBlanks text = c :: rest) (hc : c.isDigit) :
    readNested bound depth text = readNumber false (c :: rest) := by
  have hne (d : Char) (hd : d.isDigit = false) : c ≠ d := by
    rintro rfl
    simp [hd] at hc
  cases depth <;> rw [readNested, h] <;>
    simp [hne 'n' rfl, hne 't' rfl, hne 'f' rfl, hne '-' rfl, hc]

theorem readWord_eq_ok {w : Json} {word : List Char} (h : readWord w word text = .ok (v, after)) :
    v = w := by
  induction word generalizing text with
  | nil =>
    cases h
    rfl
  | cons c word ih =>
    cases text with
    | nil => cases h
    | cons d text =>
      rw [readWord] at h
      split_ifs at h
      exact ih h

/-- What is read as a number is a numeral. -/
theorem readNested_eq_number {n : Number}
    (h : readNested bound depth text = .ok (.number n, after)) :
    ∃ c rest, skipBlanks text = c :: rest ∧
      (c = '-' ∧ readNumber true rest = .ok (.number n, after) ∨
        c.isDigit ∧ readNumber false (c :: rest) = .ok (.number n, after)) := by
  have hmap {α : Type} {f : α → Json} {x : Except Fault (α × List Char)}
      (hf : ∀ a, f a ≠ .number n) :
      x.map (fun read => (f read.1, read.2)) ≠ .ok (.number n, after) := by
    rcases x with fault | ⟨a, rest⟩
    · simp [Except.map]
    · simp [Except.map, hf]
  cases hstart : skipBlanks text with
  | nil => cases depth <;> simp [readNested, hstart] at h
  | cons c rest =>
    refine ⟨c, rest, rfl, ?_⟩
    by_cases hminus : c = '-'
    · subst hminus
      rw [readNested_negative hstart] at h
      exact Or.inl ⟨rfl, h⟩
    by_cases hdigit : c.isDigit
    · rw [readNested_digit hstart hdigit] at h
      exact Or.inr ⟨hdigit, h⟩
    exfalso
    cases depth with
    | zero =>
      simp only [readNested, hstart, if_neg hminus, if_neg hdigit] at h
      split_ifs at h
      · cases readWord_eq_ok h
      · cases readWord_eq_ok h
      · cases readWord_eq_ok h
      · exact hmap (by simp) h
    | succ depth =>
      simp only [readNested, hstart, if_neg hminus, if_neg hdigit] at h
      split_ifs at h
      · cases readWord_eq_ok h
      · cases readWord_eq_ok h
      · cases readWord_eq_ok h
      · exact hmap (by simp) h
      · exact hmap (by simp) h
      · exact hmap (by simp) h

/-- A numeral with a sign is read as its number, whatever is behind it. -/
theorem Reads.of_negative (hstart : skipBlanks text = '-' :: rest)
    (hread : readNumber true rest = .ok (v, [])) : Reads (readNested bound depth) text v := by
  refine ⟨⟨_, _, hstart, by decide⟩, fun after hafter => ?_⟩
  rw [readNested_negative (skipBlanks_append_of_eq hstart after)]
  exact readNumber_append hafter hread

/-- A numeral without a sign is read as its number, whatever is behind it. -/
theorem Reads.of_digit (hstart : skipBlanks text = c :: rest) (hc : c.isDigit)
    (hread : readNumber false (c :: rest) = .ok (v, [])) :
    Reads (readNested bound depth) text v := by
  refine ⟨⟨_, _, hstart, ?_⟩, fun after hafter => ?_⟩
  · rintro rfl
    cases hc
  · rw [readNested_digit (skipBlanks_append_of_eq hstart after) hc]
    exact readNumber_append hafter hread

theorem reads_number {n : Number} (h : IsReadBack n) :
    Reads (readNested bound depth) (writeNumber n) (.number n) := by
  obtain ⟨c, rest, hstart, ⟨rfl, hread⟩ | ⟨hc, hread⟩⟩ := readNested_eq_number h
  · exact .of_negative hstart hread
  · exact .of_digit hstart hc hread

theorem reads_integer {i : Int} (h : IntegerInRange i) :
    Reads (readNested bound depth) (writeInteger i) (.integer i) := by
  have hread := readNumber_toDigits h
  unfold writeInteger
  by_cases hneg : i < 0
  · rw [decide_eq_true hneg] at hread
    rw [if_pos hneg, List.singleton_append]
    exact .of_negative (skipBlanks_of_not_space (by decide)) hread
  · obtain ⟨c, digits, hdigits⟩ := List.exists_cons_of_ne_nil
      (Nat.toDigits_ne_nil (n := i.natAbs) (b := 10))
    have hc : c.isDigit := Toml.isDigit_toDigits i.natAbs c (by simp [hdigits])
    have hspace : ¬ IsSpace c := by
      rintro (rfl | rfl | rfl | rfl) <;> cases hc
    rw [decide_eq_false hneg, hdigits] at hread
    rw [if_neg hneg, List.nil_append, hdigits]
    exact .of_digit (skipBlanks_of_not_space hspace) hc hread

theorem reads_string (s : String) :
    Reads (readNested bound depth) (writeString s) (.string s) := by
  have hstart (text : List Char) : skipBlanks ('"' :: text) = '"' :: text :=
    skipBlanks_of_not_space (by decide)
  refine ⟨⟨_, _, hstart _, by decide⟩, fun rest _ => ?_⟩
  rw [writeString, List.append_assoc, List.cons_append, List.singleton_append]
  cases depth <;> rw [readNested, hstart] <;> simp [readString_escaped, Except.map]

theorem readWord_append (w : Json) (word rest : List Char) :
    readWord w word (word ++ rest) = .ok (w, rest) := by
  induction word with
  | nil => rfl
  | cons c word ih => rw [List.cons_append, readWord, if_pos rfl, ih]

/-- The three words are read as their values. -/
theorem reads_word : Reads (readNested bound depth) (compactChars .null) .null ∧
    ∀ b, Reads (readNested bound depth) (compactChars (.bool b)) (.bool b) := by
  have hread {c : Char} {word : List Char} {w : Json} (hc : ¬ IsSpace c ∧ c ≠ ']')
      (h : ∀ rest, readNested bound depth (c :: rest) = readWord w word rest) :
      Reads (readNested bound depth) (c :: word) w := by
    refine ⟨⟨c, word, skipBlanks_of_not_space hc.1, hc.2⟩, fun rest _ => ?_⟩
    rw [List.cons_append, h, readWord_append]
  have hskip {c : Char} (hc : ¬ IsSpace c) (rest : List Char) :
      skipBlanks (c :: rest) = c :: rest := skipBlanks_of_not_space hc
  refine ⟨?_, fun b => ?_⟩
  · have hnull (rest : List Char) : readNested bound depth ('n' :: rest) =
        readWord .null ['u', 'l', 'l'] rest := by
      cases depth <;> rw [readNested, hskip (by decide)] <;> rfl
    exact hread (by decide) hnull
  · cases b with
    | false =>
      have hfalse (rest : List Char) : readNested bound depth ('f' :: rest) =
          readWord (.bool false) ['a', 'l', 's', 'e'] rest := by
        cases depth <;> rw [readNested, hskip (by decide)] <;> rfl
      exact hread (by decide) hfalse
    | true =>
      have htrue (rest : List Char) : readNested bound depth ('t' :: rest) =
          readWord (.bool true) ['r', 'u', 'e'] rest := by
        cases depth <;> rw [readNested, hskip (by decide)] <;> rfl
      exact hread (by decide) htrue

theorem length_le_flatMap {α : Type} {f : α → List Char} (hf : ∀ a, f a ≠ []) (l : List α) :
    l.length ≤ (l.flatMap f).length ∧ ∀ a ∈ l, (f a).length ≤ (l.flatMap f).length := by
  induction l with
  | nil => simp
  | cons a l ih =>
    have ha := List.length_pos_of_ne_nil (hf a)
    rw [List.flatMap_cons, List.length_append, List.length_cons]
    refine ⟨by omega, fun b hb => ?_⟩
    rcases List.mem_cons.1 hb with rfl | hb
    · omega
    · have := ih.2 b hb
      omega

namespace Layout

variable (l : Layout) (level : Nat)

/-- The text of an array is longer than that of each item, and than the number of items. -/
theorem length_array (v : Json) (values : List Json) :
    values.length + 1 < (l.write level (.array (v :: values))).length ∧
      ∀ w ∈ v :: values,
        (l.write (level + 1) w).length < (l.write level (.array (v :: values))).length := by
  obtain ⟨hcount, hlength⟩ := length_le_flatMap
    (f := fun v => ',' :: (l.line (level + 1) ++ l.write (level + 1) v)) (by simp) values
  simp only [List.length_cons, List.length_append] at hlength
  rw [l.write_array]
  simp only [List.length_cons, List.length_append, List.length_nil]
  refine ⟨by omega, fun w hw => ?_⟩
  rcases List.mem_cons.1 hw with rfl | hw
  · omega
  · have hw := hlength w hw
    omega

/-- The text of an object is longer than that of each member, and than the number of members. -/
theorem length_object (m : String × Json) (members : List (String × Json)) :
    members.length + 1 < (l.write level (.object (m :: members))).length ∧
      ∀ w ∈ m :: members,
        (l.write (level + 1) w.2).length < (l.write level (.object (m :: members))).length := by
  obtain ⟨hcount, hlength⟩ := length_le_flatMap
    (f := fun m : String × Json => ',' :: (l.line (level + 1) ++
      (writeString m.1 ++ ':' :: (l.space ++ l.write (level + 1) m.2)))) (by simp) members
  simp only [List.length_cons, List.length_append] at hlength
  rw [l.write_object]
  simp only [List.length_cons, List.length_append, List.length_nil]
  refine ⟨by omega, fun w hw => ?_⟩
  rcases List.mem_cons.1 hw with rfl | hw
  · omega
  · have hw := hlength w hw
    omega

end Layout

/-! ## Reading values -/

/-- A text that starts with a bracket is read as what stands behind it. -/
theorem Reads.of_bracket {r : Reader Json} {bracket : Char} {body : List Char}
    (hbracket : ¬ IsSpace bracket ∧ bracket ≠ ']')
    (h : ∀ rest, EndsNumeral rest → r (bracket :: (body ++ rest)) = .ok (v, rest)) :
    Reads r (bracket :: body) v :=
  ⟨⟨bracket, body, skipBlanks_of_not_space hbracket.1, hbracket.2⟩, h⟩

section

variable (l : Layout) {level : Nat} {values : List Json} {members : List (String × Json)}

/-- An array is read if its items are. -/
theorem reads_array
    (h : ∀ v ∈ values, Reads (readNested bound depth) (l.write (level + 1) v) v)
    (hbound : values.length < bound) :
    Reads (readNested bound (depth + 1)) (l.write level (.array values)) (.array values) := by
  have hread (text : List Char) : readNested bound (depth + 1) ('[' :: text) =
      (readItems (readNested bound depth) true bound text).map fun read =>
        (.array read.1, read.2) := by
    rw [readNested, skipBlanks_of_not_space (by decide)]
    rfl
  obtain ⟨bound, rfl⟩ := Nat.exists_eq_add_one.2 (Nat.zero_lt_of_lt hbound)
  cases values with
  | nil =>
    rw [l.write_flat level (.array []) trivial]
    refine Reads.of_bracket (by decide) fun rest _ => ?_
    rw [hread, List.singleton_append,
      readItems_close true (skipBlanks_of_not_space (by decide))]
    rfl
  | cons v values =>
    obtain ⟨hv, hvalues⟩ := List.forall_mem_cons.1 h
    obtain ⟨c, text, hstart, hc⟩ := hv.starts
    rw [l.write_array]
    refine Reads.of_bracket (by decide) fun rest _ => ?_
    obtain ⟨hends, hmore⟩ := readItems_written (readNested_skipBlanks _ _)
      (l.isSpace_line (level + 1)) (l.isSpace_line level) hvalues
      (Nat.lt_of_succ_lt_succ hbound) rest
    simp only [List.append_assoc, List.singleton_append] at hends hmore ⊢
    have hskip := skipBlanks_append (l.isSpace_line (level + 1))
      (l.write (level + 1) v ++ (values.flatMap
        (fun v => ',' :: (l.line (level + 1) ++ l.write (level + 1) v)) ++
          (l.line level ++ ']' :: rest)))
    rw [hread, readItems_first (hskip.trans (skipBlanks_append_of_eq hstart _)) hc
      (by rw [hskip, readNested_skipBlanks, hv.reads _ hends]) hmore]
    rfl

/-- An object is read if the values of its members are. -/
theorem reads_object
    (h : ∀ m ∈ members, Reads (readNested bound depth) (l.write (level + 1) m.2) m.2)
    (hbound : members.length < bound) :
    Reads (readNested bound (depth + 1)) (l.write level (.object members)) (.object members) := by
  have hread (text : List Char) : readNested bound (depth + 1) ('\x7b' :: text) =
      (readMembers (readNested bound depth) true bound text).map fun read =>
        (.object read.1, read.2) := by
    rw [readNested, skipBlanks_of_not_space (by decide)]
    rfl
  obtain ⟨bound, rfl⟩ := Nat.exists_eq_add_one.2 (Nat.zero_lt_of_lt hbound)
  cases members with
  | nil =>
    rw [l.write_flat level (.object []) trivial]
    refine Reads.of_bracket (by decide) fun rest _ => ?_
    rw [hread, List.singleton_append,
      readMembers_close true (skipBlanks_of_not_space (by decide))]
    rfl
  | cons m members =>
    obtain ⟨hm, hmembers⟩ := List.forall_mem_cons.1 h
    rw [l.write_object]
    refine Reads.of_bracket (by decide) fun rest _ => ?_
    obtain ⟨hends, hmore⟩ := readMembers_written (readNested_skipBlanks _ _)
      (l.isSpace_line (level + 1)) (l.isSpace_line level) l.isSpace_space hmembers
      (Nat.lt_of_succ_lt_succ hbound) rest
    simp only [writeString, List.append_assoc, List.cons_append, List.nil_append] at hends hmore ⊢
    rw [hread, readMembers_first ?_
      (readMember_written (readNested_skipBlanks _ _) l.isSpace_space hm hends) hmore]
    · rfl
    · rw [skipBlanks_append (l.isSpace_line (level + 1)), skipBlanks_of_not_space (by decide)]

end

/-- **Values are read back** from any layout, whatever follows that does not go on with a
    numeral. -/
theorem readNested_write (l : Layout) (h : Readable depth v) (level : Nat)
    (hbound : (l.write level v).length < bound) :
    Reads (readNested bound depth) (l.write level v) v := by
  induction h generalizing level with
  | null =>
    rw [l.write_flat level .null trivial]
    exact reads_word.1
  | bool b =>
    rw [l.write_flat level (.bool b) trivial]
    exact reads_word.2 b
  | @integer depth i h =>
    rw [l.write_flat level (.integer i) trivial]
    exact reads_integer h
  | @number depth n h =>
    rw [l.write_flat level (.number n) trivial]
    exact reads_number h
  | string s =>
    rw [l.write_flat level (.string s) trivial]
    exact reads_string s
  | @array depth values hvalues ih =>
    cases values with
    | nil => exact reads_array l (by simp) (Nat.zero_lt_of_lt hbound)
    | cons v values =>
      obtain ⟨hcount, hlength⟩ := l.length_array level v values
      exact reads_array l (fun w hw => ih w hw (level + 1) (Nat.lt_trans (hlength w hw) hbound))
        (Nat.lt_trans hcount hbound)
  | @object depth members hmembers ih =>
    cases members with
    | nil => exact reads_object l (by simp) (Nat.zero_lt_of_lt hbound)
    | cons m members =>
      obtain ⟨hcount, hlength⟩ := l.length_object level m members
      exact reads_object l (fun w hw => ih w hw (level + 1) (Nat.lt_trans (hlength w hw) hbound))
        (Nat.lt_trans hcount hbound)

/-- A whole text is read up to what follows a value. -/
theorem readValue_write (l : Layout) (h : Readable maxDepth v) (hrest : EndsNumeral rest) :
    readValue (l.write 0 v ++ rest) = .ok (v, rest) := by
  refine (readNested_write l h 0 ?_).reads rest hrest
  rw [List.length_append]
  omega

end TaskQuery.Json
