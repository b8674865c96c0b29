/-
  TaskQuery — TOML strings that are written are read back.

  * `QuoteState.after run`: the state inside a string after some quotes in a row that may
    still belong to it; `readQuoted_closing`: there the closing quotes end the string;
  * `readQuoted_escapeBasic`: characters written between double quotes are read back;
  * `readQuoted_literal`: so are those that stand as they are between single quotes;
  * `readString_quote`: every string is written so that it is read back.
-/
import Mathlib.Tactic.SplitIfs
import TaskQuery.Toml.Strings
import TaskQuery.Toml.Writing

namespace TaskQuery.Toml

variable {kind : QuoteKind} {isLong : Bool} {c : Char} {state : QuoteState}
  {before chars complete rest : List Char} {run longest : Nat} {value : String}

/-! ## Quotes -/

/-- How many quotes may stand in a row in a kind of string. -/
def QuoteKind.room (kind : QuoteKind) : Nat :=
  if kind.isLong then 2 else 0

/-- The quotes around a kind of string. -/
def QuoteKind.closing (kind : QuoteKind) : List Char :=
  List.replicate (kind.room + 1) kind.quote

/-- The state inside a string after some quotes in a row. -/
def QuoteState.after : Nat → QuoteState
  | 0 => .plain
  | run + 1 => .quotes (run + 1)

theorem QuoteKind.room_le (kind : QuoteKind) : kind.room ≤ 2 := by
  unfold room
  split <;> decide

theorem QuoteKind.isLong_of_lt_room (h : run < kind.room) : kind.isLong = true := by
  cases hlong : kind.isLong with
  | true => rfl
  | false => simp [room, hlong] at h

/-- Quotes are part of the string once another character follows. -/
theorem readQuoted_after (hc : c ≠ kind.quote) (hrun : run ≤ 2) :
    readQuoted kind (.after run) before (c :: rest) =
      readQuoted kind .plain (List.replicate run kind.quote ++ before) (c :: rest) := by
  cases run with
  | zero => rfl
  | succ run =>
    have hrun : ¬ 3 ≤ run + 1 := by omega
    simp only [QuoteState.after, readQuoted, if_neg hc, if_neg hrun]
    cases stepPlain kind c with
    | none => rfl
    | some next => simp only [Option.map_some, List.append_assoc]

theorem readQuoted_quote (hlong : kind.isLong = true) (hrun : run < 4) :
    readQuoted kind (.after run) before (kind.quote :: rest) =
      readQuoted kind (.after (run + 1)) before rest := by
  cases run with
  | zero => simp [QuoteState.after, readQuoted, hlong]
  | succ run => simp [QuoteState.after, readQuoted, show run ≠ 3 by omega]

theorem readQuoted_end (hrest : rest.head? ≠ some kind.quote) :
    readQuoted kind (.after (3 + run)) before rest =
      some (String.ofList (before.reverse ++ List.replicate run kind.quote), rest) := by
  rw [show 3 + run = run + 2 + 1 by omega, QuoteState.after]
  cases rest with
  | nil => simp [readQuoted, readQuoted.finish]
  | cons d rest =>
    have hd : d ≠ kind.quote := by simpa using hrest
    simp [readQuoted, readQuoted.finish, hd]

/-- The closing quotes end a string, and up to two quotes before them belong to it. -/
theorem readQuoted_closing (hrest : rest.head? ≠ some kind.quote) (hrun : run ≤ kind.room) :
    readQuoted kind (.after run) before (kind.closing ++ rest) =
      some (String.ofList (before.reverse ++ List.replicate run kind.quote), rest) := by
  unfold QuoteKind.closing QuoteKind.room at *
  cases hlong : kind.isLong with
  | false =>
    have hzero : run = 0 := by simpa [hlong] using hrun
    subst hzero
    simp [QuoteState.after, readQuoted, readQuoted.finish, hlong]
  | true =>
    simp only [hlong, if_true] at hrun
    show readQuoted kind (.after run) before (kind.quote :: kind.quote :: kind.quote :: rest) = _
    rw [readQuoted_quote hlong (by omega), readQuoted_quote hlong (by omega)]
    by_cases hfull : run = 2
    · subst hfull
      simp [QuoteState.after, readQuoted, readQuoted.finish]
    · rw [readQuoted_quote hlong (by omega), show run + 1 + 1 + 1 = 3 + run by omega]
      exact readQuoted_end hrest

/-! ## Characters -/

theorem readQuoted_step (hc : c ≠ kind.quote) (h : stepPlain kind c = some (state, complete)) :
    readQuoted kind .plain before (c :: rest) = readQuoted kind state (complete ++ before) rest := by
  simp only [readQuoted, if_neg hc, h]

/-- A character is read as it is if it is none that ends or escapes. -/
theorem stepPlain_self (hescape : c = '\\' → kind.isLiteral = true)
    (hcontrol : isControl c = false) (hbreak : c = '\n' → kind.isLong = true) :
    stepPlain kind c = some (.plain, [c]) := by
  have hplain : c = '\n' ∨ (c ≠ '\r' ∧ isPlainChar c = true) := by
    by_cases hn : c = '\n'
    · exact Or.inl hn
    by_cases hr : c = '\r'
    · subst hr
      exact absurd hcontrol (by decide)
    · refine Or.inr ⟨hr, ?_⟩
      simp only [isControl, isPlainChar] at hcontrol ⊢
      grind
  have hliteral : ¬ (c = '\\' ∧ (!kind.isLiteral) = true) := by
    rintro ⟨rfl, h⟩
    simp [hescape rfl] at h
  rw [stepPlain, if_neg hliteral]
  rcases hplain with rfl | ⟨hr, hplain⟩
  · rw [if_pos ⟨hbreak rfl, rfl⟩]
  · by_cases hn : kind.isLong = true ∧ c = '\n'
    · rw [if_pos hn]
    · rw [if_neg hn, if_neg (fun h => hr h.2), if_pos hplain]

/-- The written form of a character other than the quote. -/
def writtenChar (isLong : Bool) (c : Char) : List Char :=
  if c = '\x08' then ['\\', 'b']
  else if c = '\t' then ['\\', 't']
  else if c = '\n' then (if isLong then [c] else ['\\', 'n'])
  else if c = '\x0c' then ['\\', 'f']
  else if c = '\r' then ['\\', 'r']
  else if c = '\\' then ['\\', '\\']
  else if c.toNat < 0x20 ∨ c = '\x7f' then '\\' :: 'u' :: hexDigits c.toNat
  else [c]

theorem escapeBasic_cons (h : c ≠ '"') : escapeBasic isLong run (c :: rest) =
    writtenChar isLong c ++ escapeBasic isLong 0 rest := by
  rw [escapeBasic, if_neg h]
  rfl

theorem hexDigits_values : ∀ code < 128, (hexDigits code).map Json.hexValue? =
    [some 0, some 0, some (code / 16), some (code % 16)] := by
  decide +kernel

theorem readQuoted_hexDigit {d : Char} {left value digit : Nat} (h : Json.hexValue? d = some digit)
    (hleft : 1 < left) : readQuoted kind (.hex left value) before (d :: rest) =
      readQuoted kind (.hex (left - 1) (value * 16 + digit)) before rest := by
  simp only [readQuoted, h, if_pos hleft, List.nil_append]

theorem readQuoted_lastDigit {d : Char} {value digit : Nat} (h : Json.hexValue? d = some digit)
    (hvalid : (value * 16 + digit).isValidChar) :
    readQuoted kind (.hex 1 value) before (d :: rest) =
      readQuoted kind .plain (Char.ofNat (value * 16 + digit) :: before) rest := by
  simp only [readQuoted, h, Nat.lt_irrefl, if_false, if_pos hvalid, List.singleton_append]

/-- A code that is written in digits is read back. -/
theorem readQuoted_hexDigits (h : c.toNat < 128) :
    readQuoted ⟨false, isLong⟩ .plain before ('\\' :: 'u' :: hexDigits c.toNat ++ rest) =
      readQuoted ⟨false, isLong⟩ .plain (c :: before) rest := by
  obtain ⟨d₁, ds, hdigits, h₁, hrest⟩ := List.map_eq_cons_iff.1 (hexDigits_values _ h)
  obtain ⟨d₂, ds, rfl, h₂, hrest⟩ := List.map_eq_cons_iff.1 hrest
  obtain ⟨d₃, ds, rfl, h₃, hrest⟩ := List.map_eq_cons_iff.1 hrest
  obtain ⟨d₄, ds, rfl, h₄, hrest⟩ := List.map_eq_cons_iff.1 hrest
  rw [hdigits, List.map_eq_nil_iff.1 hrest]
  have hcode : (((0 * 16 + 0) * 16 + 0) * 16 + c.toNat / 16) * 16 + c.toNat % 16 = c.toNat := by
    omega
  have hstart : readQuoted ⟨false, isLong⟩ .plain before ('\\' :: 'u' :: d₁ :: d₂ :: d₃ :: d₄ :: rest) =
      readQuoted ⟨false, isLong⟩ (.hex 4 0) before (d₁ :: d₂ :: d₃ :: d₄ :: rest) := by
    rfl
  show readQuoted ⟨false, isLong⟩ .plain before ('\\' :: 'u' :: d₁ :: d₂ :: d₃ :: d₄ :: rest) = _
  rw [hstart, readQuoted_hexDigit h₁ (by decide), readQuoted_hexDigit h₂ (by decide),
    readQuoted_hexDigit h₃ (by decide), readQuoted_lastDigit h₄ (by rw [hcode]; exact c.valid),
    hcode, Char.ofNat_toNat]

theorem readQuoted_writtenChar (hc : c ≠ '"') :
    readQuoted ⟨false, isLong⟩ .plain before (writtenChar isLong c ++ rest) =
      readQuoted ⟨false, isLong⟩ .plain (c :: before) rest := by
  unfold writtenChar
  split_ifs with hb ht hn hlong hf hr hbackslash hcode
  · subst hb
    cases isLong <;> rfl
  · subst ht
    cases isLong <;> rfl
  · subst hn hlong
    rfl
  · subst hn
    cases isLong <;> rfl
  · subst hf
    cases isLong <;> rfl
  · subst hr
    cases isLong <;> rfl
  · subst hbackslash
    cases isLong <;> rfl
  · refine readQuoted_hexDigits ?_
    rcases hcode with hcode | rfl
    · omega
    · decide
  · have hplain : isControl c = false := by simp_all [isControl]
    rw [List.singleton_append, readQuoted_step hc
      (stepPlain_self (fun h => absurd h hbackslash) hplain (fun h => absurd h hn))]
    rfl

theorem readQuoted_escapedQuote :
    readQuoted ⟨false, isLong⟩ .plain before ('\\' :: '"' :: rest) =
      readQuoted ⟨false, isLong⟩ .plain ('"' :: before) rest := by
  cases isLong <;> rfl

/-- The written form of a character starts with no quote, and with a line break only if it is
    one. -/
theorem exists_writtenChar (isLong : Bool) (hc : c ≠ '"') : ∃ d ds, writtenChar isLong c = d :: ds ∧
    d ≠ '"' ∧ d ≠ '\r' ∧ (d = '\n' → c = '\n') := by
  unfold writtenChar
  split_ifs with hb ht hn hlong hf hr hbackslash hcode
  all_goals exact ⟨_, _, rfl, by simp_all⟩

/-! ## Bodies -/

/-- What is written between double quotes is read back, also after some quotes. -/
theorem readQuoted_escapeBasic (hrest : rest.head? ≠ some '"') :
    run ≤ (⟨false, isLong⟩ : QuoteKind).room →
    readQuoted ⟨false, isLong⟩ (.after run) before
        (escapeBasic isLong run chars ++ (QuoteKind.closing ⟨false, isLong⟩ ++ rest)) =
      some (String.ofList (before.reverse ++ (List.replicate run '"' ++ chars)), rest) := by
  induction chars generalizing run before with
  | nil =>
    intro hrun
    rw [escapeBasic, List.nil_append, readQuoted_closing hrest hrun, List.append_nil]
    rfl
  | cons c chars ih =>
    intro hrun
    have hroom : run ≤ 2 := Nat.le_trans hrun (QuoteKind.room_le _)
    by_cases hc : c = '"'
    · subst hc
      by_cases hfits : isLong = true ∧ run < 2
      · rw [escapeBasic, if_pos rfl, if_pos hfits, List.cons_append]
        obtain ⟨rfl, hfits⟩ := hfits
        have hnext : run + 1 ≤ (⟨false, true⟩ : QuoteKind).room := hfits
        refine (readQuoted_quote rfl (by omega)).trans ((ih hnext).trans ?_)
        rw [List.replicate_succ', List.append_assoc, List.singleton_append]
      · -- the quote is escaped, so that none are open after it
        rw [escapeBasic, if_pos rfl, if_neg hfits, List.cons_append, List.cons_append,
          readQuoted_after (by decide : '\\' ≠ '"') hroom, readQuoted_escapedQuote]
        refine (ih (Nat.zero_le _)).trans ?_
        simp [QuoteKind.quote]
    · obtain ⟨d, ds, hwritten, hd, -⟩ := exists_writtenChar isLong hc
      rw [escapeBasic_cons hc, List.append_assoc, hwritten, List.cons_append,
        readQuoted_after hd hroom, ← List.cons_append, ← hwritten, readQuoted_writtenChar hc]
      refine (ih (Nat.zero_le _)).trans ?_
      simp [QuoteKind.quote]

/-- What is written between double quotes starts with no quote on one line, with no carriage
    return, and with a line feed only if it is one. -/
theorem head_escapeBasic : ∀ c ∈ (escapeBasic isLong 0 chars).head?,
    (isLong = false → c ≠ '"') ∧ c ≠ '\r' ∧ (c = '\n' → '\n' ∈ chars) := by
  cases chars with
  | nil => simp [escapeBasic]
  | cons d ds =>
    intro c hc
    by_cases hd : d = '"'
    · subst hd
      cases isLong <;> simp [escapeBasic] at hc <;> subst hc <;> simp
    · obtain ⟨e, es, hwritten, he, hreturn, hbreak⟩ := exists_writtenChar isLong hd
      rw [escapeBasic_cons hd, hwritten, List.cons_append, List.head?_cons,
        Option.mem_some_iff] at hc
      subst hc
      exact ⟨fun _ => he, hreturn, fun h => hbreak h ▸ List.mem_cons_self⟩

/-- The longest run of a character so far and the run at the end, after one more character. -/
def runStep (c : Char) (state : Nat × Nat) (d : Char) : Nat × Nat :=
  let run := if d = c then state.2 + 1 else 0
  (max state.1 run, run)

theorem le_foldl_runStep (c : Char) (chars : List Char) (longest run : Nat) :
    longest ≤ (chars.foldl (runStep c) (longest, run)).1 := by
  induction chars generalizing longest run with
  | nil => exact Nat.le_refl _
  | cons d chars ih => exact Nat.le_trans (Nat.le_max_left _ _) (ih _ _)

/-- What stands as it is between single quotes is read back, also after some quotes. -/
theorem readQuoted_literal (hrest : rest.head? ≠ some '\'')
    (hcontrol : ∀ c ∈ chars, isControl c = false) (hbreak : isLong = false → '\n' ∉ chars)
    (hlongest : run ≤ longest) :
    (chars.foldl (runStep '\'') (longest, run)).1 ≤ (⟨true, isLong⟩ : QuoteKind).room →
    readQuoted ⟨true, isLong⟩ (.after run) before
        (chars ++ (QuoteKind.closing ⟨true, isLong⟩ ++ rest)) =
      some (String.ofList (before.reverse ++ (List.replicate run '\'' ++ chars)), rest) := by
  induction chars generalizing run longest before with
  | nil =>
    intro hfits
    rw [List.nil_append, readQuoted_closing hrest (Nat.le_trans hlongest hfits), List.append_nil]
    rfl
  | cons c chars ih =>
    intro hfits
    rw [List.forall_mem_cons] at hcontrol
    have hbreak' : isLong = false → '\n' ∉ chars :=
      fun h hmem => hbreak h (List.mem_cons_of_mem _ hmem)
    -- the run up to `c` is no longer than the longest in the end
    have hrun := Nat.le_trans (le_foldl_runStep '\'' chars _ _) hfits
    rw [List.foldl_cons, runStep] at hfits
    by_cases hc : c = '\''
    · subst hc
      rw [if_pos rfl] at hrun hfits
      have hroom : run < (⟨true, isLong⟩ : QuoteKind).room :=
        Nat.le_trans (Nat.le_max_right _ _) hrun
      have hlong := QuoteKind.isLong_of_lt_room hroom
      subst hlong
      have hfew : run < 4 := Nat.lt_trans hroom (by decide)
      refine (readQuoted_quote rfl hfew).trans ?_
      refine (ih hcontrol.2 hbreak' (Nat.le_max_right _ _) hfits).trans ?_
      rw [List.replicate_succ', List.append_assoc, List.singleton_append]
    · rw [if_neg hc] at hfits
      have hfew : longest ≤ 2 :=
        Nat.le_trans (Nat.le_max_left _ _) (Nat.le_trans hrun (QuoteKind.room_le _))
      have hroom : run ≤ 2 := Nat.le_trans hlongest hfew
      have hself : stepPlain ⟨true, isLong⟩ c = some (.plain, [c]) := by
        refine stepPlain_self (fun _ => rfl) hcontrol.1 ?_
        rintro rfl
        cases isLong with
        | true => rfl
        | false => simp at hbreak
      rw [List.cons_append, readQuoted_after hc hroom, readQuoted_step hc hself]
      refine (ih hcontrol.2 hbreak' (Nat.zero_le _) hfits).trans ?_
      simp [QuoteKind.quote]

/-! ## Strings -/

namespace StringForm

/-- The kind of string that a form writes. -/
def quoteKind : StringForm → QuoteKind
  | basic => ⟨false, false⟩
  | literal => ⟨true, false⟩
  | longBasic => ⟨false, true⟩
  | longLiteral => ⟨true, true⟩

/-- What a form writes between its quotes. -/
def body (form : StringForm) (chars : List Char) : List Char :=
  if form.quoteKind.isLiteral then chars else escapeBasic form.quoteKind.isLong 0 chars

variable {form : StringForm}

/-- What single quotes hold as it is. -/
theorem of_holds (hholds : form.holds chars = true) (hform : form.quoteKind.isLiteral = true) :
    (∀ c ∈ chars, isControl c = false) ∧ (form.quoteKind.isLong = false → '\n' ∉ chars) ∧
      longestRun '\'' chars ≤ form.quoteKind.room := by
  cases form <;>
    simp_all [holds, quoteKind, StringForm.isLong, QuoteKind.room, List.any_eq_false]

theorem holds_stringForm (h : (stringForm chars).quoteKind.isLiteral = true) :
    (stringForm chars).holds chars = true := by
  revert h
  unfold stringForm
  split
  · rename_i form hfind
    have hholds := List.find?_some hfind
    exact fun _ => hholds
  · split <;> simp [quoteKind]

/-- No form on one line starts with its quote, none at all with a carriage return, and with
    a line feed only what does itself. -/
theorem head_body (hform : form.quoteKind.isLiteral = true → form.holds chars = true) :
    ∀ c ∈ (form.body chars).head?, (form.quoteKind.isLong = false → c ≠ form.quoteKind.quote) ∧
      c ≠ '\r' ∧ (c = '\n' → '\n' ∈ chars) := by
  cases chars with
  | nil =>
    unfold body
    split <;> simp [escapeBasic]
  | cons d ds =>
    intro c hc
    cases hliteral : form.quoteKind.isLiteral with
    | true =>
      obtain ⟨hcontrol, -, hrun⟩ := of_holds (hform hliteral) hliteral
      rw [body, if_pos hliteral, List.head?_cons, Option.mem_some_iff] at hc
      subst hc
      refine ⟨fun hshort hquote => ?_, ?_, fun hbreak => hbreak ▸ List.mem_cons_self⟩
      · have hquote : d = '\'' := by simpa [QuoteKind.quote, hliteral] using hquote
        subst hquote
        have hone : 1 ≤ longestRun '\'' ('\'' :: ds) := le_foldl_runStep '\'' ds 1 1
        simp only [QuoteKind.room, hshort] at hrun
        exact absurd (Nat.le_trans hone hrun) (by decide)
      · rintro rfl
        exact absurd (hcontrol _ List.mem_cons_self) (by decide)
    | false =>
      have hquote : form.quoteKind.quote = '"' := by simp [QuoteKind.quote, hliteral]
      rw [body, hliteral] at hc
      rw [hquote]
      exact head_escapeBasic c hc

end StringForm

/-- The characters of a written string. -/
theorem toList_quote (value : String) :
    let form := stringForm value.toList
    (quote value).toList = form.quoteKind.closing ++
      ((if form.quoteKind.isLong = true ∧ '\n' ∈ value.toList then ['\n'] else []) ++
        (form.body value.toList ++ form.quoteKind.closing)) := by
  intro form
  unfold quote
  dsimp only
  rw [show stringForm value.toList = form from rfl]
  generalize form = form
  cases form <;> by_cases hn : '\n' ∈ value.toList <;>
    simp [hn, StringForm.quotes, StringForm.isLong, StringForm.quoteKind, StringForm.body,
      QuoteKind.closing, QuoteKind.room, QuoteKind.quote, List.replicate]

theorem readString_closing {text : List Char}
    (h : kind.isLong = false → ∀ t, text ≠ kind.quote :: kind.quote :: t) :
    readString (kind.closing ++ text) =
      readQuoted kind .plain [] (if kind.isLong then dropLineBreak text else text) := by
  obtain ⟨isLiteral, isLong⟩ := kind
  cases isLong with
  | true => cases isLiteral <;> rfl
  | false =>
    have h := h rfl
    match text with
    | [] | [_] => cases isLiteral <;> rfl
    | b :: c :: t =>
      have hne : ¬ (b = QuoteKind.quote ⟨isLiteral, false⟩ ∧ c = QuoteKind.quote ⟨isLiteral, false⟩) := by
        rintro ⟨rfl, rfl⟩
        exact h t rfl
      cases isLiteral <;>
        simp_all [QuoteKind.closing, QuoteKind.room, QuoteKind.quote, readString, readShortString]

theorem dropLineBreak_self {text : List Char} (h : ∀ c ∈ text.head?, c ≠ '\n' ∧ c ≠ '\r') :
    dropLineBreak text = text := by
  unfold dropLineBreak
  split <;> simp_all

theorem readQuoted_body {form : StringForm}
    (hform : form.quoteKind.isLiteral = true → form.holds chars = true)
    (hrest : rest.head? ≠ some form.quoteKind.quote) :
    readQuoted form.quoteKind .plain [] (form.body chars ++ (form.quoteKind.closing ++ rest)) =
      some (String.ofList chars, rest) := by
  cases hliteral : form.quoteKind.isLiteral with
  | true =>
    have hkind : form.quoteKind = ⟨true, form.quoteKind.isLong⟩ := by rw [← hliteral]
    obtain ⟨hcontrol, hbreak, hrun⟩ := StringForm.of_holds (hform hliteral) hliteral
    rw [StringForm.body, if_pos hliteral]
    rw [hkind] at hrest hrun ⊢
    exact readQuoted_literal hrest hcontrol hbreak (Nat.le_refl 0) hrun
  | false =>
    have hkind : form.quoteKind = ⟨false, form.quoteKind.isLong⟩ := by rw [← hliteral]
    rw [StringForm.body, hliteral, if_neg Bool.false_ne_true]
    rw [hkind] at hrest ⊢
    exact readQuoted_escapeBasic hrest (Nat.zero_le _)

theorem readString_form {form : StringForm}
    (hform : form.quoteKind.isLiteral = true → form.holds chars = true)
    (hrest : rest.head? ≠ some form.quoteKind.quote) :
    readString (form.quoteKind.closing ++
        ((if form.quoteKind.isLong = true ∧ '\n' ∈ chars then ['\n'] else []) ++
          (form.body chars ++ (form.quoteKind.closing ++ rest)))) =
      some (String.ofList chars, rest) := by
  have hhead := form.head_body hform
  have hbody := readQuoted_body hform hrest
  cases hlong : form.quoteKind.isLong with
  | false =>
    rw [if_neg (by simp), List.nil_append, readString_closing, hlong, if_neg Bool.false_ne_true,
      hbody]
    -- two quotes at the start would be read as tripled ones
    intro _ t htext
    rw [QuoteKind.closing, QuoteKind.room, hlong] at htext
    cases hb : form.body chars with
    | nil =>
      rw [hb] at htext
      have hquote : rest = form.quoteKind.quote :: t := (List.cons.inj htext).2
      rw [hquote] at hrest
      exact hrest rfl
    | cons c cs =>
      rw [hb] at htext hhead
      exact (hhead c rfl).1 hlong (List.cons.inj htext).1
  | true =>
    rw [readString_closing (by simp [hlong]), hlong, if_pos rfl]
    by_cases hn : '\n' ∈ chars
    · rw [if_pos ⟨rfl, hn⟩]
      exact hbody
    · rw [if_neg (fun h => hn h.2), List.nil_append, dropLineBreak_self, hbody]
      intro c hc
      cases hb : form.body chars with
      | nil =>
        have hc : form.quoteKind.quote = c := by
          simpa [hb, QuoteKind.closing, List.replicate_succ] using hc
        subst hc
        unfold QuoteKind.quote
        split <;> decide
      | cons d ds =>
        have hc : d = c := by simpa [hb] using hc
        subst hc
        obtain ⟨-, hreturn, hbreak⟩ := hhead d (by rw [hb]; rfl)
        exact ⟨fun h => hn (hbreak h), hreturn⟩

/-- **Every string is written so that it is read back**, if no quote follows it. -/
theorem readString_quote (value : String) (hrest : ∀ c ∈ rest.head?, c ≠ '"' ∧ c ≠ '\'') :
    readString ((quote value).toList ++ rest) = some (value, rest) := by
  have hclosed (form : StringForm) : rest.head? ≠ some form.quoteKind.quote := by
    intro h
    obtain ⟨hdouble, hsingle⟩ := hrest _ h
    unfold QuoteKind.quote at hdouble hsingle
    split at hdouble <;> simp_all
  have hread := readString_form StringForm.holds_stringForm (hclosed (stringForm value.toList))
  rw [String.ofList_toList] at hread
  rw [toList_quote]
  simpa only [List.append_assoc] using hread

end TaskQuery.Toml
