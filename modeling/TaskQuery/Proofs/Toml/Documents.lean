/-
  TaskQuery — TOML documents that are written are read back.

  * `Written text value`: the text is read as the value at the end of a line;
    `written_quote`, `written_of_ofWord?` and `written_toString`: so are strings, words and whole
    numbers;
  * `Member`: a bare key with a value and how that is written;
  * `Reads text line`: the text is read as a line, whatever follows;
    `readLines_flatMap`: so lines are read that stand one after the other;
  * `documentText top sections`: the text of a document, with members at its top and in tables;
    `ofText?_documentText`: it is read back.
-/
import TaskQuery.Proofs.Lists
import TaskQuery.Proofs.Toml.Strings
import TaskQuery.Toml.Reading

namespace TaskQuery.Toml

open Text (takeWhile_append_stop)

variable {c : Char} {chars rest : List Char} {value v : Toml} {key name : String} {n : Nat}
  {members inner : List (String × Toml)} {f : Option Toml → Option Toml} {path : List String}

/-! ## Values -/

/-- A text is read as a value if a line ends after it. -/
def Written (chars : List Char) (value : Toml) : Prop :=
  ∀ rest, skipBlanks (chars ++ '\n' :: rest) = chars ++ '\n' :: rest ∧
    readValue (chars ++ '\n' :: rest) = some (value, '\n' :: rest)

theorem skipBlanks_self (h : ∀ c ∈ chars.head?, c ≠ ' ' ∧ c ≠ '\t') : skipBlanks chars = chars := by
  cases chars with
  | nil => rfl
  | cons c chars =>
    obtain ⟨hspace, htab⟩ := h c rfl
    simp [skipBlanks, hspace, htab]

theorem readValue_cons (hc : c ≠ '[' ∧ c ≠ '\x7b') : readValue (c :: rest) =
    if c = '"' ∨ c = '\'' then
      (readString (c :: rest)).map fun (value, rest) => (.text value, rest)
    else readWord (c :: rest) := by
  rw [readValue, maxDepth, readNested]
  · exact fun _ _ h => hc.1 h
  · exact fun _ _ h => hc.2 h

theorem written_quote (value : String) : Written (quote value).toList (.text value) := by
  intro rest
  have hread : readString ((quote value).toList ++ '\n' :: rest) = some (value, '\n' :: rest) :=
    readString_quote value (by simp)
  obtain ⟨c, cs, hquote, hc⟩ : ∃ c cs, (quote value).toList = c :: cs ∧ (c = '"' ∨ c = '\'') := by
    rw [toList_quote]
    generalize stringForm value.toList = form
    cases form
    · exact ⟨_, _, rfl, Or.inl rfl⟩
    · exact ⟨_, _, rfl, Or.inr rfl⟩
    · exact ⟨_, _, rfl, Or.inl rfl⟩
    · exact ⟨_, _, rfl, Or.inr rfl⟩
  rw [hquote, List.cons_append] at hread ⊢
  constructor
  · apply skipBlanks_self
    rcases hc with rfl | rfl <;> simp
  · rw [readValue_cons, if_pos hc, hread, Option.map_some]
    rcases hc with rfl | rfl <;> decide

theorem readWord_append (hword : ∀ c ∈ chars, isWordChar c) (hvalue : ofWord? chars = some value) :
    readWord (chars ++ '\n' :: rest) = some (value, '\n' :: rest) := by
  have hstop : ∀ c ∈ ('\n' :: rest).head?, isWordChar c = false := by simp [isWordChar]
  obtain ⟨htake, hdrop⟩ := takeWhile_append_stop hword hstop
  rw [readWord]
  dsimp only
  rw [htake, hdrop, hvalue]
  split
  · rename_i h
    simp at h
  · rfl

/-- A character of a class is none that is not of the class. -/
theorem ne_of_class {p : Char → Bool} {d : Char} (hc : p c = true) (hd : p d = false) : c ≠ d := by
  rintro rfl
  rw [hc] at hd
  cases hd

/-- Words are values. -/
theorem written_of_ofWord? (hword : ∀ c ∈ chars, isWordChar c) (hne : chars ≠ [])
    (hvalue : ofWord? chars = some value) : Written chars value := by
  intro rest
  have hread : readWord (chars ++ '\n' :: rest) = some (value, '\n' :: rest) :=
    readWord_append hword hvalue
  cases chars with
  | nil => exact absurd rfl hne
  | cons c cs =>
    have hc : isWordChar c = true := hword c List.mem_cons_self
    have hother (d : Char) (hd : isWordChar d = false) : c ≠ d := ne_of_class hc hd
    rw [List.cons_append] at hread ⊢
    constructor
    · apply skipBlanks_self
      simp [hother ' ' (by decide), hother '\t' (by decide)]
    · rw [readValue_cons ⟨hother _ (by decide), hother _ (by decide)⟩, if_neg, hread]
      exact not_or.2 ⟨hother _ (by decide), hother _ (by decide)⟩

theorem digitGroups?_digits (hdigits : ∀ c ∈ chars, c.isDigit) (hne : chars ≠ []) :
    digitGroups? Char.isDigit chars = some chars := by
  induction chars with
  | nil => exact absurd rfl hne
  | cons c chars ih =>
    rw [List.forall_mem_cons] at hdigits
    cases chars with
    | nil => simp [digitGroups?, hdigits.1]
    | cons d chars =>
      have hd : d ≠ '_' := by
        rintro rfl
        exact absurd (hdigits.2 _ List.mem_cons_self) (by decide)
      rw [digitGroups?, if_pos hdigits.1, ih hdigits.2 (by simp)]
      · rfl
      · simp
      · exact fun rest h => hd (List.cons.inj h).1

/-- A whole number is written without needless zeros. -/
theorem head_toDigits (hn : 0 < n) : (Nat.toDigits 10 n).head? ≠ some '0' := by
  induction n using Nat.strongRecOn with
  | ind n ih =>
    by_cases hsmall : n < 10
    · have hdigit : ∀ m < 10, 0 < m → m.digitChar ≠ '0' := by decide
      rw [Nat.toDigits_of_lt_base hsmall, List.head?_singleton]
      exact fun h => hdigit n hsmall hn (Option.some.inj h)
    · have hquotient := ih (n / 10) (by omega) (by omega)
      obtain ⟨c, cs, hcs⟩ := List.exists_cons_of_ne_nil (Nat.toDigits_ne_nil (n := n / 10))
      rw [Nat.toDigits_of_base_le (by decide) (by omega)]
      rw [hcs] at hquotient ⊢
      exact hquotient

theorem valueIn_digits (hdigits : ∀ c ∈ chars, c.isDigit) (value : Nat) :
    chars.foldl (fun value c => value * 10 + digitValue c) value = Nat.ofDigitChars 10 chars value := by
  induction chars generalizing value with
  | nil => rfl
  | cons c chars ih =>
    rw [List.forall_mem_cons] at hdigits
    rw [List.foldl_cons, ih hdigits.2, digitValue, if_pos hdigits.1, Nat.ofDigitChars,
      Nat.ofDigitChars, List.foldl_cons, Nat.mul_comm]

theorem isDigit_toDigits (n : Nat) : ∀ c ∈ Nat.toDigits 10 n, c.isDigit :=
  fun _ hc => Nat.isDigit_of_mem_toDigits (by decide) (by decide) hc

theorem decimalDigits?_toDigits (n : Nat) :
    decimalDigits? (Nat.toDigits 10 n) = some (Nat.toDigits 10 n) := by
  rw [decimalDigits?, digitGroups?_digits (isDigit_toDigits n) Nat.toDigits_ne_nil]
  split
  · rename_i c cs h
    have h : Nat.toDigits 10 n = '0' :: c :: cs := Option.some.inj h
    rcases Nat.eq_zero_or_pos n with rfl | hn
    · cases h
    · exact absurd (congrArg List.head? h) (head_toDigits hn)
  · rfl

theorem splitSign_digits (hdigits : ∀ c ∈ chars, c.isDigit) :
    Number.splitSign chars = (false, chars) := by
  cases chars with
  | nil => rfl
  | cons c chars =>
    have hc : c.isDigit := hdigits c List.mem_cons_self
    exact Number.splitSign_of_ne (by rintro rfl; cases hc) (by rintro rfl; cases hc) chars

/-- A whole number below `2 ^ 63` is read back from its digits. -/
theorem integer?_toDigits (hn : n < twoTo 63) :
    integer? (Nat.toDigits 10 n) = some (.integer n) := by
  have hdigits := isDigit_toDigits n
  have hvalue : valueIn 10 (Nat.toDigits 10 n) = n := by
    rw [valueIn, valueIn_digits hdigits, Nat.ofDigitChars_toDigits (by decide) (by decide)]
  have hdecimal := decimalDigits?_toDigits n
  have hrange : -(twoTo 63 : Int) ≤ n ∧ (n : Int) < twoTo 63 := by omega
  generalize Nat.toDigits 10 n = ds at *
  have hsecond {c d : Char} {ds : List Char} (h : ∀ c' ∈ c :: d :: ds, c'.isDigit) : d.isDigit :=
    h d (List.mem_cons_of_mem _ List.mem_cons_self)
  -- the second character of digits tells no other base
  unfold integer?
  split
  · exact absurd (hsecond hdigits) (by decide)
  · exact absurd (hsecond hdigits) (by decide)
  · exact absurd (hsecond hdigits) (by decide)
  · rw [splitSign_digits hdigits]
    dsimp only
    rw [hdecimal, Option.map_some, hvalue, if_neg Bool.false_ne_true, Option.bind_some, if_pos hrange]

theorem isWordChar_of_isDigit (hc : c.isDigit = true) : isWordChar c = true := by
  simp [isWordChar, Char.isAlphanum, hc]

theorem written_toString (hn : n < twoTo 63) : Written (toString n).toList (.integer n) := by
  have hdigits := isDigit_toDigits n
  have hletter (word : String) (h : word.toList.all Char.isDigit = false) :
      Nat.toDigits 10 n ≠ word.toList := by
    intro hword
    rw [← hword, List.all_eq_true.2 hdigits] at h
    cases h
  rw [Nat.toString_eq_ofList_toDigits, String.toList_ofList]
  refine written_of_ofWord? (fun c hc => isWordChar_of_isDigit (hdigits c hc)) Nat.toDigits_ne_nil ?_
  rw [ofWord?, if_neg (hletter "true" (by decide)), if_neg (hletter "false" (by decide)),
    integer?_toDigits hn]

theorem written_true : Written "true".toList (.boolean true) :=
  written_of_ofWord? (List.all_eq_true.1 (by decide)) (by decide) (by rfl)

theorem written_false : Written "false".toList (.boolean false) :=
  written_of_ofWord? (List.all_eq_true.1 (by decide)) (by decide) (by rfl)

/-! ## Lines -/

/-- A text is read as a line, whatever follows. -/
def Reads (chars : List Char) (line : Line) : Prop :=
  chars ≠ [] ∧ ∀ rest, readLine (chars ++ rest) = some (line, rest)

/-- Lines that stand one after the other are read one by one. -/
theorem readLines_flatMap {lines : List (List Char × Line)} (h : ∀ p ∈ lines, Reads p.1 p.2)
    {bound : Nat} (hbound : (lines.flatMap Prod.fst).length ≤ bound) :
    readLines bound (lines.flatMap Prod.fst) = some (lines.map Prod.snd) := by
  induction lines generalizing bound with
  | nil =>
    cases bound <;> rfl
  | cons p lines ih =>
    rw [List.forall_mem_cons] at h
    obtain ⟨⟨hne, hread⟩, h⟩ := h
    obtain ⟨c, cs, hp⟩ := List.exists_cons_of_ne_nil hne
    rw [List.flatMap_cons, List.length_append, hp, List.length_cons] at hbound
    obtain ⟨bound, rfl⟩ : ∃ b, bound = b + 1 := ⟨bound - 1, by omega⟩
    have hread := hread (lines.flatMap Prod.fst)
    rw [hp, List.cons_append] at hread
    rw [List.flatMap_cons, hp, List.cons_append, readLines, hread]
    · dsimp only [Option.bind_eq_bind, Option.bind_some]
      rw [ih h (by omega)]
      rfl
    · exact List.cons_ne_nil _ _

theorem reads_blank : Reads ['\n'] .blank :=
  ⟨by simp, fun _ => rfl⟩

/-- A key that is written without quotes. -/
def IsBare (key : String) : Prop :=
  key ≠ "" ∧ ∀ c ∈ key.toList, isKeyChar c

instance (key : String) : Decidable (IsBare key) :=
  decidable_of_iff (key ≠ "" ∧ key.toList.all isKeyChar = true) (by rw [IsBare, List.all_eq_true])

theorem IsBare.exists_cons (h : IsBare key) : ∃ c cs, key.toList = c :: cs ∧ isKeyChar c := by
  cases hkey : key.toList with
  | nil => exact absurd (String.toList_eq_nil_iff.1 hkey) h.1
  | cons c cs => exact ⟨c, cs, rfl, h.2 c (hkey ▸ List.mem_cons_self)⟩

theorem readKeyPart_bare (h : IsBare key) (hrest : ∀ c ∈ rest.head?, isKeyChar c = false) :
    readKeyPart (key.toList ++ rest) = some (key, rest) := by
  obtain ⟨htake, hdrop⟩ := takeWhile_append_stop h.2 hrest
  obtain ⟨c, cs, hkey, hc⟩ := h.exists_cons
  have hname : key.toList ≠ [] := by simp [hkey]
  have hquote : ¬ (c = '"' ∨ c = '\'') :=
    not_or.2 ⟨ne_of_class hc (by decide), ne_of_class hc (by decide)⟩
  rw [hkey, List.cons_append] at htake hdrop ⊢
  rw [readKeyPart, if_neg hquote]
  dsimp only
  rw [htake, hdrop, ← hkey, if_neg hname, String.ofList_toList]

theorem skipBlanks_bare (h : IsBare key) : skipBlanks (key.toList ++ rest) = key.toList ++ rest := by
  obtain ⟨c, cs, hkey, hc⟩ := h.exists_cons
  rw [hkey, List.cons_append]
  apply skipBlanks_self
  simp [ne_of_class hc (d := ' ') (by decide), ne_of_class hc (d := '\t') (by decide)]

theorem readKey_bare (h : IsBare key) (hrest : ∀ c ∈ rest.head?, isKeyChar c = false)
    (hpoint : ∀ t, skipBlanks rest ≠ '.' :: t) :
    readKey (key.toList ++ rest) = some (([], key), skipBlanks rest) := by
  have hparts : readKeyParts maxDepth (key.toList ++ rest) = some ([key], skipBlanks rest) := by
    rw [maxDepth, readKeyParts, skipBlanks_bare h, readKeyPart_bare h hrest]
    dsimp only [Option.bind_eq_bind, Option.bind_some]
    split
    · rename_i t htext
      exact absurd htext (hpoint t)
    · rfl
  rw [readKey, hparts]
  rfl

/-- A header is read. -/
theorem reads_header (h : IsBare name) :
    Reads ("[" ++ name ++ "]\n").toList (.tableHeader [] name) := by
  refine ⟨by simp, fun rest => ?_⟩
  obtain ⟨c, cs, hname, hc⟩ := h.exists_cons
  have hkey : readKey (name.toList ++ ']' :: '\n' :: rest) = some (([], name), ']' :: '\n' :: rest) :=
    readKey_bare h (by simp [isKeyChar]) (by simp [skipBlanks])
  have htext : ("[" ++ name ++ "]\n").toList ++ rest = '[' :: (name.toList ++ ']' :: '\n' :: rest) := by
    simp
  have hbody : readLineBody ('[' :: (name.toList ++ ']' :: '\n' :: rest)) =
      some (.tableHeader [] name, '\n' :: rest) := by
    rw [readLineBody, skipBlanks_self (by simp)]
    split
    · rename_i heq
      rw [hname] at heq
      exact absurd (List.cons.inj (List.cons.inj heq).2).1 (ne_of_class hc (by decide))
    · rename_i heq
      rw [← (List.cons.inj heq).2, hkey]
      rfl
    · rename_i heq
      cases heq
    · rename_i hne heq
      exact absurd (List.cons.inj heq).1.symm hne
  rw [htext, readLine, hbody]
  rfl

/-! ## Members -/

/-- A bare key with a value and how that is written. -/
structure Member where
  /-- The key. -/
  key : String
  /-- The written form. -/
  written : String
  /-- The value. -/
  value : Toml
  bare : IsBare key
  reads : Written written.toList value

namespace Member

/-- The line of a member. -/
def text (m : Member) : String :=
  assignmentLine m.key m.written

/-- What the line of a member says. -/
def line (m : Member) : Line :=
  .assignment [] m.key m.value

/-- A member as a part of a table. -/
def pair (m : Member) : String × Toml :=
  (m.key, m.value)

theorem reads_text (m : Member) : Reads m.text.toList m.line := by
  refine ⟨by simp [text, assignmentLine], fun rest => ?_⟩
  obtain ⟨c, cs, hkey, hc⟩ := m.bare.exists_cons
  obtain ⟨hstart, hread⟩ := m.reads rest
  have htext : m.text.toList ++ rest =
      m.key.toList ++ ' ' :: '=' :: ' ' :: (m.written.toList ++ '\n' :: rest) := by
    simp [text, assignmentLine]
  have hassignment : readAssignment readValue (m.text.toList ++ rest) =
      some ((([], m.key), m.value), '\n' :: rest) := by
    rw [htext, readAssignment, readKey_bare m.bare (by simp [isKeyChar]) (by simp [skipBlanks])]
    show (readValue (skipBlanks (m.written.toList ++ '\n' :: rest))).bind _ = _
    rw [hstart, hread]
    rfl
  have hbody : readLineBody (m.text.toList ++ rest) = some (m.line, '\n' :: rest) := by
    rw [htext, readLineBody, skipBlanks_bare m.bare]
    rw [htext] at hassignment
    rw [hkey, List.cons_append] at hassignment ⊢
    split
    · rename_i heq
      exact absurd (List.cons.inj heq).1 (ne_of_class hc (by decide))
    · rename_i heq
      exact absurd (List.cons.inj heq).1 (ne_of_class hc (by decide))
    · rename_i heq
      cases heq
    · rename_i d ds hne hne' heq
      obtain ⟨rfl, rfl⟩ := List.cons.inj heq
      rw [if_neg, hassignment]
      · rfl
      · exact not_or.2 ⟨ne_of_class hc (by decide),
          not_or.2 ⟨ne_of_class hc (by decide), ne_of_class hc (by decide)⟩⟩
  rw [readLine, hbody]
  rfl

end Member

/-! ## Documents -/

theorem not_mem_of_nodup {names names' : List String} (h : (names ++ name :: names').Nodup) :
    name ∉ names :=
  fun hmem => (List.nodup_append.1 h).2.2 _ hmem _ List.mem_cons_self rfl

theorem alterMember_new (h : key ∉ members.map Prod.fst) :
    alterMember key f members = (f none).map fun v => members ++ [(key, v)] := by
  induction members with
  | nil => rfl
  | cons m members ih =>
    obtain ⟨hne, h⟩ := not_or.1 (mt List.mem_cons.2 h)
    rw [alterMember, if_neg (Ne.symm hne), ih h, Option.map_map]
    rfl

theorem alterMember_last (h : key ∉ members.map Prod.fst) :
    alterMember key f (members ++ [(key, v)]) =
      (f (some v)).map fun v => members ++ [(key, v)] := by
  induction members with
  | nil => simp [alterMember]
  | cons m members ih =>
    obtain ⟨hne, h⟩ := not_or.1 (mt List.mem_cons.2 h)
    rw [List.cons_append, alterMember, if_neg (Ne.symm hne), ih h, Option.map_map]
    rfl

/-- A key with a value is added to a table that was made by a header or is the document. -/
theorem assign_new (h : key ∉ members.map Prod.fst) :
    assign [] key v (.table .header members) = some (.table .header (members ++ [(key, v)])) := by
  simp [assign, alter, alterKey, alterMember_new h]

namespace Draft

theorem add_member (h : key ∉ members.map Prod.fst) :
    add ⟨.table .header members, []⟩ (.assignment [] key v) =
      some ⟨.table .header (members ++ [(key, v)]), []⟩ := by
  rw [add, alter, assign_new h]
  rfl

theorem add_header (h : name ∉ members.map Prod.fst) :
    add ⟨.table .header members, path⟩ (.tableHeader [] name) =
      some ⟨.table .header (members ++ [(name, .table .header [])]), [name]⟩ := by
  rw [add, openTable, alter, alterKey, alterMember_new h]
  rfl

theorem add_inner (h : name ∉ members.map Prod.fst) (hinner : key ∉ inner.map Prod.fst) :
    add ⟨.table .header (members ++ [(name, .table .header inner)]), [name]⟩ (.assignment [] key v) =
      some ⟨.table .header (members ++ [(name, .table .header (inner ++ [(key, v)]))]), [name]⟩ := by
  simp [add, alter, alterKey, alterMember_last h, assign_new hinner]

end Draft

namespace Member

variable {ms : List Member}

/-- The members at the top of a document are added to it. -/
theorem foldlM_top (h : (members.map Prod.fst ++ ms.map Member.key).Nodup) :
    (ms.map line).foldlM Draft.add ⟨.table .header members, []⟩ =
      some ⟨.table .header (members ++ ms.map pair), []⟩ := by
  induction ms generalizing members with
  | nil => simp
  | cons m ms ih =>
    rw [List.map_cons, List.foldlM_cons, line, Draft.add_member (not_mem_of_nodup h)]
    refine (ih ?_).trans ?_
    · simpa using h
    · simp [pair]

/-- The members after a header are added to its table. -/
theorem foldlM_inner (hname : name ∉ members.map Prod.fst)
    (h : (inner.map Prod.fst ++ ms.map Member.key).Nodup) :
    (ms.map line).foldlM Draft.add ⟨.table .header (members ++ [(name, .table .header inner)]), [name]⟩ =
      some ⟨.table .header (members ++ [(name, .table .header (inner ++ ms.map pair))]), [name]⟩ := by
  induction ms generalizing inner with
  | nil => simp
  | cons m ms ih =>
    rw [List.map_cons, List.foldlM_cons, line, Draft.add_inner hname (not_mem_of_nodup h)]
    refine (ih ?_).trans ?_
    · simpa using h
    · simp [pair]

end Member

/-- A table with a header and members. -/
structure Section where
  /-- The name in the header. -/
  name : String
  /-- The members. -/
  members : List Member
  bare : IsBare name
  nodup : (members.map Member.key).Nodup

namespace Section

variable {sections : List Section}

/-- The text of a table, with an empty line above. -/
def text (s : Section) : String :=
  "\n[" ++ s.name ++ "]\n" ++ String.join (s.members.map Member.text)

/-- A table as a part of a document. -/
def pair (s : Section) : String × Toml :=
  (s.name, .table .header (s.members.map Member.pair))

/-- The lines of a table with what they say. -/
def lines (s : Section) : List (List Char × Line) :=
  (['\n'], .blank) :: (("[" ++ s.name ++ "]\n").toList, .tableHeader [] s.name) ::
    s.members.map fun m => (m.text.toList, m.line)

theorem reads_lines (s : Section) : ∀ p ∈ s.lines, Reads p.1 p.2 := by
  intro p hp
  simp only [lines, List.mem_cons, List.mem_map] at hp
  rcases hp with rfl | rfl | ⟨m, -, rfl⟩
  · exact reads_blank
  · exact reads_header s.bare
  · exact m.reads_text

theorem flatMap_lines (s : Section) : s.lines.flatMap Prod.fst = s.text.toList := by
  simp [lines, text, String.toList_join, List.flatMap_map]

/-- The lines of a table are added to a document. -/
theorem foldlM_lines {s : Section} (h : s.name ∉ members.map Prod.fst) :
    (s.lines.map Prod.snd).foldlM Draft.add ⟨.table .header members, path⟩ =
      some ⟨.table .header (members ++ [s.pair]), [s.name]⟩ := by
  rw [lines, List.map_cons, List.map_cons, List.foldlM_cons, List.map_map]
  show (Line.tableHeader [] s.name :: s.members.map Member.line).foldlM Draft.add _ = _
  rw [List.foldlM_cons, Draft.add_header h]
  exact Member.foldlM_inner h s.nodup

theorem foldlM_sections (path : List String)
    (h : (members.map Prod.fst ++ sections.map Section.name).Nodup) :
    ∃ path', ((sections.flatMap lines).map Prod.snd).foldlM Draft.add ⟨.table .header members, path⟩ =
      some ⟨.table .header (members ++ sections.map pair), path'⟩ := by
  induction sections generalizing members path with
  | nil => exact ⟨path, by simp⟩
  | cons s sections ih =>
    obtain ⟨path', hpath⟩ := @ih (members ++ [s.pair]) [s.name] (by simpa [pair] using h)
    refine ⟨path', ?_⟩
    rw [List.flatMap_cons, List.map_append, List.foldlM_append, foldlM_lines (not_mem_of_nodup h)]
    refine hpath.trans ?_
    simp

end Section

/-- The text of a document with members at its top and in tables. -/
def documentText (top : List Member) (sections : List Section) : String :=
  String.join (top.map Member.text) ++ String.join (sections.map Section.text)

/-- What lines that are read build up is the document. -/
theorem ofText?_of_reads {content : String} {lines : List (List Char × Line)} {draft : Draft}
    (htext : content.toList = lines.flatMap Prod.fst) (hreads : ∀ p ∈ lines, Reads p.1 p.2)
    (hdraft : (lines.map Prod.snd).foldlM Draft.add ⟨.table .header [], []⟩ = some draft) :
    ofText? content = some draft.root := by
  have hlines : readLines (content.toList.length + 1) content.toList = some (lines.map Prod.snd) := by
    rw [htext]
    exact readLines_flatMap hreads (Nat.le_succ _)
  have hmark : ∀ rest, content.toList ≠ '\ufeff' :: rest := by
    intro rest hcontent
    rw [hcontent] at hlines
    cases hlines
  rw [ofText?]
  split
  · rename_i heq
    exact absurd heq (hmark _)
  · rw [hlines]
    dsimp only [Option.bind_eq_bind, Option.bind_some]
    rw [hdraft, Option.bind_some]

/-- **A document that is written is read back.** -/
theorem ofText?_documentText {top : List Member} {sections : List Section}
    (h : (top.map Member.key ++ sections.map Section.name).Nodup) :
    ofText? (documentText top sections) =
      some (.table .header (top.map Member.pair ++ sections.map Section.pair)) := by
  let lines : List (List Char × Line) :=
    top.map (fun m => (m.text.toList, m.line)) ++ sections.flatMap Section.lines
  have htext : (documentText top sections).toList = lines.flatMap Prod.fst := by
    simp [lines, documentText, String.toList_join, List.flatMap_map, List.flatMap_assoc,
      Section.flatMap_lines]
  have hreads : ∀ p ∈ lines, Reads p.1 p.2 := by
    intro p hp
    rcases List.mem_append.1 hp with hp | hp
    · obtain ⟨m, -, rfl⟩ := List.mem_map.1 hp
      exact m.reads_text
    · obtain ⟨s, -, hp⟩ := List.mem_flatMap.1 hp
      exact s.reads_lines p hp
  have htop : (top.map Member.line).foldlM Draft.add ⟨.table .header [], []⟩ =
      some ⟨.table .header (top.map Member.pair), []⟩ :=
    Member.foldlM_top (List.Nodup.sublist (List.sublist_append_left _ _) h)
  have hnames : ((top.map Member.pair).map Prod.fst ++ sections.map Section.name).Nodup := by
    simpa [List.map_map, Function.comp_def, Member.pair] using h
  obtain ⟨path, hsections⟩ := Section.foldlM_sections [] hnames
  refine @ofText?_of_reads _ lines ⟨_, path⟩ htext hreads ?_
  rw [List.map_append, List.map_map, List.foldlM_append]
  show ((top.map Member.line).foldlM Draft.add _).bind _ = _
  rw [htop]
  exact hsections

end TaskQuery.Toml
