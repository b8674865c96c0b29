/-
  TaskQuery — where tokens are divided.

  * `openQuote text`: the quote that is open after a text, and `QuotesClosed` if
    there is none at the end of a query;
  * `tokensOf text`: the tokens of a text, which `tokenize` finds in a query;
  * `Scan.above s below`: the state `s` with tokens found before; scanning never
    looks at them (`Scan.run_above`, `Scan.finish_above`);
  * `Scan.run_literal` and `Scan.run_blanks`: what a closed literal and blanks do;
  * `tokensOf_literal`: a closed literal is a token;
  * `tokensOf_append_blank` and `tokensOf_append_parenthesis`: outside quotes a
    blank or a parenthesis divides a text into parts that are scanned on their own;
    `tokensOf_append`: so it does where it ends the first part;
  * `tokensOf_blanks_append`, `tokensOf_append_blanks` and `tokensOf_append_of_open`:
    blanks before and after a text change nothing, unless a quote is open: then
    they become part of the literal `openText` that the text ends in;
  * `tokensOf_joined` and `tokensOf_group`: two texts around a connective, and a text
    in parentheses.
-/
import TaskQuery.Query.Token

namespace TaskQuery

/-! ## Quotes -/

/-- The quote that is open after one more character. -/
def quoteAfter (quote : Option Char) (c : Char) : Option Char :=
  match quote with
  | some opening => if c = opening then none else some opening
  | none => if c = '"' ∨ c = '\'' then some c else none

/-- The quote that is open after a text. -/
def openQuote (text : List Char) : Option Char :=
  text.foldl quoteAfter none

/-- Every opened quote of a query is closed. -/
def QuotesClosed (query : String) : Prop :=
  openQuote query.toList = none

/-- The tokens of a text. -/
def tokensOf (text : List Char) : List Token :=
  (Scan.start.run text).finish

theorem tokenize_eq (query : String) : tokenize query = tokensOf query.toList := rfl

/-- After a text with closed quotes, quotes are counted from the start. -/
theorem openQuote_append {a b : List Char} (ha : openQuote a = none) :
    openQuote (a ++ b) = openQuote b := by
  rw [openQuote, List.foldl_append, ← openQuote, ha, ← openQuote]

/-- Only quote characters open a quote. -/
theorem openQuote_eq_some {text : List Char} {quote : Char} (h : openQuote text = some quote) :
    quote = '"' ∨ quote = '\'' := by
  have hafter (opened : Option Char) (hopened : ∀ q ∈ opened, q = '"' ∨ q = '\'') (c : Char) :
      ∀ q ∈ quoteAfter opened c, q = '"' ∨ q = '\'' := by
    intro q hq
    unfold quoteAfter at hq
    split at hq <;> split at hq
    · cases hq
    · exact hopened q hq
    · rename_i hc
      cases hq
      exact hc
    · cases hq
  have hfold (opened : Option Char) (hopened : ∀ q ∈ opened, q = '"' ∨ q = '\'') :
      ∀ q ∈ text.foldl quoteAfter opened, q = '"' ∨ q = '\'' := by
    clear h
    induction text generalizing opened with
    | nil => exact hopened
    | cons c text ih => exact ih _ (hafter opened hopened c)
  exact hfold none (fun q hq => by cases hq) quote h

theorem ne_of_openQuote {text : List Char} {quote c : Char} (h : openQuote text = some quote)
    (hc : Text.isBlank c) : c ≠ quote := by
  rintro rfl
  rcases openQuote_eq_some h with rfl | rfl <;> exact absurd hc (by decide)

/-- Blanks open and close no quotes. -/
theorem openQuote_append_blanks {text blanks : List Char} (hblanks : ∀ c ∈ blanks, Text.isBlank c) :
    openQuote (text ++ blanks) = openQuote text := by
  have hafter (c : Char) (hc : Text.isBlank c) :
      quoteAfter (openQuote text) c = openQuote text := by
    unfold quoteAfter
    split
    · rename_i quote hquote
      exact (if_neg (ne_of_openQuote hquote hc)).trans hquote.symm
    · rename_i hquote
      refine (if_neg ?_).trans hquote.symm
      rintro (rfl | rfl) <;> exact absurd hc (by decide)
  rw [openQuote, List.foldl_append, ← openQuote]
  induction blanks with
  | nil => rfl
  | cons c blanks ih =>
    rw [List.foldl_cons, hafter c (hblanks c List.mem_cons_self)]
    exact ih fun d hd => hblanks d (List.mem_cons_of_mem _ hd)

theorem openQuote_blanks {blanks : List Char} (hblanks : ∀ c ∈ blanks, Text.isBlank c) :
    openQuote blanks = none := by
  rw [← List.nil_append blanks, openQuote_append_blanks hblanks]
  rfl

namespace Scan

variable {s : Scan} {c : Char} {a b text : List Char} {below : List Token}

theorem run_cons : s.run (c :: text) = (s.step c).run text := rfl

theorem step_quote : (s.step c).quote = quoteAfter s.quote c := by
  unfold step quoteAfter
  cases hq : s.quote with
  | some opening =>
    dsimp only
    split
    · rfl
    · exact hq
  | none =>
    dsimp only
    unfold stepBare
    split
    · rfl
    · split
      · rfl
      · split
        · rfl
        · split
          · rfl
          · exact hq

theorem run_quote : (s.run text).quote = text.foldl quoteAfter s.quote := by
  induction text generalizing s with
  | nil => rfl
  | cons c text ih => rw [run_cons, ih, step_quote, List.foldl_cons]

theorem start_run_quote : (start.run text).quote = openQuote text :=
  run_quote

/-! ## Tokens found before -/

/-- The state with tokens found before. -/
def above (below : List Token) (s : Scan) : Scan :=
  { s with tokens := s.tokens ++ below }

theorem above_pending : (s.above below).pending = s.pending := rfl

theorem flush_above (quoted : Bool) : (s.above below).flush quoted = (s.flush quoted).above below := by
  by_cases h : s.pending = [] <;> simp [flush, above, h]

theorem symbol_above : (s.above below).symbol text = (s.symbol text).above below := by
  simp only [symbol, flush_above]
  rfl

theorem stepBare_above : (s.above below).stepBare c = (s.stepBare c).above below := by
  have htail : ({ s.above below with pending := s.pending.tail } : Scan) =
      ({ s with pending := s.pending.tail } : Scan).above below := rfl
  simp only [stepBare, apply_ite (Scan.above below), above_pending, flush_above, symbol_above, htail]
  rfl

theorem step_above : (s.above below).step c = (s.step c).above below := by
  unfold step
  show (match s.quote with | some opening => _ | none => _) = _
  cases s.quote with
  | none => exact stepBare_above
  | some opening =>
    dsimp only
    split
    · exact flush_above true
    · rfl

theorem run_above : (s.above below).run text = (s.run text).above below := by
  induction text generalizing s with
  | nil => rfl
  | cons c text ih => rw [run_cons, step_above, ih, run_cons]

theorem finish_above : (s.above below).finish = below.reverse ++ s.finish := by
  unfold finish
  rw [flush_above, above, List.reverse_append]
  rfl

/-- Where nothing is pending, what follows is scanned on its own. -/
theorem finish_run_of_pending_nil (hp : s.pending = []) (hq : s.quote = none) :
    (s.run text).finish = s.tokens.reverse ++ tokensOf text := by
  have hs : s = start.above s.tokens := by
    cases s
    cases hp
    cases hq
    rfl
  rw [hs, run_above, finish_above]
  rfl

/-! ## Literals and blanks -/

/-- Inside quotes everything but the closing quote is pending. -/
theorem run_open {quote : Char} (hq : s.quote = some quote) (ht : ∀ c ∈ text, c ≠ quote) :
    s.run text = { s with pending := text.reverse ++ s.pending } := by
  induction text generalizing s with
  | nil => rfl
  | cons c text ih =>
    have hc : s.step c = s.push c := by
      simp only [step, hq, if_neg (ht c List.mem_cons_self)]
    rw [run_cons, hc, ih (s := s.push c) hq fun d hd => ht d (List.mem_cons_of_mem _ hd)]
    simp [push]

/-- What is pending before a literal becomes part of it. -/
theorem run_literal {quote : Char} (hquote : quote = '"' ∨ quote = '\'') (hq : s.quote = none)
    (ht : ∀ c ∈ text, c ≠ quote) :
    s.run (quote :: (text ++ [quote])) =
      ({ s with pending := text.reverse ++ s.pending } : Scan).flush true := by
  have hopen : s.step quote = { s with quote := some quote } := by
    simp only [step, hq, stepBare, if_pos hquote]
  rw [run_cons, hopen, run_append, run_open rfl ht, run_cons, step]
  exact if_pos rfl

/-! ## Characters that divide -/

theorem step_blank (hq : s.quote = none) (hc : Text.isBlank c) : s.step c = s.flush false := by
  have hne : ∀ {d : Char}, Text.isBlank d = false → c ≠ d := by
    rintro d hd rfl
    rw [hd] at hc
    cases hc
  have hquote : ¬ (c = '"' ∨ c = '\'') := not_or.2 ⟨hne (by decide), hne (by decide)⟩
  have hparen : ¬ (c = '(' ∨ c = ')') := not_or.2 ⟨hne (by decide), hne (by decide)⟩
  have hjoin : ¬ (c = '&' ∨ c = '|') := not_or.2 ⟨hne (by decide), hne (by decide)⟩
  simp only [step, hq, stepBare, if_neg hquote, if_neg hparen]
  rw [if_neg fun h => hjoin h.1, if_pos hc]

/-- Blanks change nothing where nothing is pending. -/
theorem run_blanks (hp : s.pending = []) (hq : s.quote = none) (ht : ∀ c ∈ text, Text.isBlank c) :
    s.run text = s := by
  induction text with
  | nil => rfl
  | cons c text ih =>
    have hflush : s.flush false = s := by
      cases s
      cases hp
      cases hq
      rfl
    rw [run_cons, step_blank hq (ht c List.mem_cons_self), hflush]
    exact ih fun d hd => ht d (List.mem_cons_of_mem _ hd)

theorem step_parenthesis (hq : s.quote = none) (hc : c = '(' ∨ c = ')') : s.step c = s.symbol [c] := by
  have hquote : ¬ (c = '"' ∨ c = '\'') := by rcases hc with rfl | rfl <;> decide
  simp only [step, hq, stepBare, if_neg hquote, if_pos hc]

/-! ## Pending blanks -/

/-- Blanks are pending only if a quote is open, and then the last character of the
    text is the last that is pending. -/
def Ends (s : Scan) (last : Option Char) : Prop :=
  (∀ c ∈ s.pending, Text.isBlank c = false) ∨ s.quote ≠ none ∧ s.pending.head? = last

theorem ends_of_pending_nil {last : Option Char} (hp : s.pending = []) : s.Ends last := by
  refine Or.inl fun c hc => ?_
  rw [hp] at hc
  cases hc

/-- What one character preserves. -/
theorem step_ends {last : Option Char} (h : s.Ends last) : (s.step c).Ends (some c) := by
  unfold step
  cases hq : s.quote with
  | some opening =>
    dsimp only
    split
    · exact ends_of_pending_nil rfl
    · have hopen : (s.push c).quote ≠ none := by
        rw [push, hq]
        exact Option.some_ne_none opening
      exact Or.inr ⟨hopen, rfl⟩
  | none =>
    have hpending : ∀ d ∈ s.pending, Text.isBlank d = false := by
      rcases h with h | ⟨h, -⟩
      · exact h
      · exact absurd hq h
    dsimp only
    unfold stepBare
    split
    · exact Or.inl hpending
    split
    · exact ends_of_pending_nil rfl
    split
    · exact ends_of_pending_nil rfl
    split
    · exact ends_of_pending_nil rfl
    · rename_i hc
      refine Or.inl fun d hd => ?_
      rcases List.mem_cons.1 hd with rfl | hd
      · exact Bool.eq_false_iff.2 hc
      · exact hpending d hd

/-- What a text preserves. -/
theorem run_ends {last : Option Char} (h : s.Ends last) :
    (s.run text).Ends (text.getLast?.or last) := by
  induction text generalizing s last with
  | nil => exact h
  | cons c text ih =>
    have hlast : (c :: text).getLast?.or last = text.getLast?.or (some c) := by
      cases htext : text.getLast? <;> simp [List.getLast?_cons, htext]
    rw [run_cons, hlast]
    exact ih (step_ends h)

end Scan

variable {a b : List Char}

theorem tokensOf_eq_flush (ha : openQuote a = none) :
    ((Scan.start.run a).flush false).tokens.reverse = tokensOf a := by
  rw [tokensOf, Scan.finish, Scan.start_run_quote, ha]
  rfl

/-- **A closed literal is a token.** -/
theorem tokensOf_literal {quote : Char} {text : List Char} (hquote : quote = '"' ∨ quote = '\'')
    (hne : text ≠ []) (ht : ∀ c ∈ text, c ≠ quote) (rest : List Char) :
    openQuote (quote :: (text ++ [quote])) = none ∧
      tokensOf (quote :: (text ++ quote :: rest)) = .literal (String.ofList text) :: tokensOf rest := by
  have hrun := Scan.run_literal (s := Scan.start) hquote rfl ht
  have hassoc : quote :: (text ++ quote :: rest) = quote :: (text ++ [quote]) ++ rest := by simp
  constructor
  · rw [← Scan.start_run_quote, hrun]
    rfl
  · rw [hassoc, tokensOf, Scan.run_append, hrun, Scan.finish_run_of_pending_nil rfl rfl]
    simp [Scan.flush, Scan.start, hne]

/-- **A blank outside quotes divides.** -/
theorem tokensOf_append_blank (ha : openQuote a = none) {c : Char} (hc : Text.isBlank c) :
    tokensOf (a ++ c :: b) = tokensOf a ++ tokensOf b := by
  have hq : (Scan.start.run a).quote = none := Scan.start_run_quote.trans ha
  rw [tokensOf, Scan.run_append, Scan.run_cons, Scan.step_blank hq hc,
    Scan.finish_run_of_pending_nil rfl rfl, tokensOf_eq_flush ha]

/-- **A parenthesis outside quotes divides, and is a token.** -/
theorem tokensOf_append_parenthesis (ha : openQuote a = none) {c : Char} (hc : c = '(' ∨ c = ')') :
    tokensOf (a ++ c :: b) = tokensOf a ++ .bare (String.ofList [c]) :: tokensOf b := by
  have hq : (Scan.start.run a).quote = none := Scan.start_run_quote.trans ha
  rw [tokensOf, Scan.run_append, Scan.run_cons, Scan.step_parenthesis hq hc,
    Scan.finish_run_of_pending_nil rfl rfl, Scan.symbol, List.reverse_cons, tokensOf_eq_flush ha,
    List.append_assoc, List.singleton_append]

/-- A text that ends in a blank or a parenthesis outside quotes is divided from what
    follows. -/
theorem tokensOf_append (ha : openQuote a = none)
    (hlast : ∀ c ∈ a.getLast?, Text.isBlank c ∨ c = '(' ∨ c = ')') :
    tokensOf (a ++ b) = tokensOf a ++ tokensOf b := by
  rcases List.eq_nil_or_concat a with rfl | ⟨front, c, rfl⟩
  · rfl
  rw [List.concat_eq_append] at *
  have hc : Text.isBlank c ∨ c = '(' ∨ c = ')' := hlast c (by simp)
  have hfront : openQuote front = none := by
    cases hopen : openQuote front with
    | none => rfl
    | some quote =>
      rw [openQuote, List.foldl_append, ← openQuote, hopen] at ha
      have hne : c ≠ quote := by
        rintro rfl
        rcases openQuote_eq_some hopen with rfl | rfl <;> exact absurd hc (by decide)
      simp [quoteAfter, hne] at ha
  rw [List.append_assoc, List.singleton_append]
  rcases hc with hc | hc
  · rw [tokensOf_append_blank hfront hc, tokensOf_append_blank hfront hc, List.append_assoc]
    rfl
  · rw [tokensOf_append_parenthesis hfront hc, tokensOf_append_parenthesis hfront hc, List.append_assoc]
    rfl

/-! ## Blanks around a text -/

section
variable {blanks : List Char} (hblanks : ∀ c ∈ blanks, Text.isBlank c)
include hblanks

theorem tokensOf_blanks_append : tokensOf (blanks ++ a) = tokensOf a := by
  rw [tokensOf, Scan.run_append, Scan.run_blanks rfl rfl hblanks, ← tokensOf]

theorem tokensOf_blanks : tokensOf blanks = [] := by
  rw [← List.append_nil blanks, tokensOf_blanks_append hblanks]
  rfl

theorem tokensOf_append_blanks (ha : openQuote a = none) : tokensOf (a ++ blanks) = tokensOf a := by
  cases blanks with
  | nil => rw [List.append_nil]
  | cons c blanks =>
    rw [tokensOf_append_blank ha (hblanks c List.mem_cons_self),
      tokensOf_blanks fun d hd => hblanks d (List.mem_cons_of_mem _ hd), List.append_nil]

end

/-- The text of the literal that is open after a text. -/
def openText (text : List Char) : List Char :=
  (Scan.start.run text).pending.reverse

/-- The tokens of a text before its open literal. -/
def tokensBefore (text : List Char) : List Token :=
  (Scan.start.run text).tokens.reverse

/-- **An open literal lasts to the end**, whatever stands there but its quote. -/
theorem tokensOf_append_of_open {quote : Char} (ha : openQuote a = some quote)
    (hb : ∀ c ∈ b, c ≠ quote) :
    tokensOf (a ++ b) = tokensBefore a ++
      if openText a ++ b = [] then [] else [.literal (String.ofList (openText a ++ b))] := by
  have hq : (Scan.start.run a).quote = some quote := Scan.start_run_quote.trans ha
  rw [tokensOf, Scan.run_append, Scan.run_open hq hb, Scan.finish, hq, Scan.flush, tokensBefore, openText]
  by_cases hp : b.reverse ++ (Scan.start.run a).pending = []
  · rw [List.append_eq_nil_iff, List.reverse_eq_nil_iff] at hp
    simp [hp]
  · have hp' : (Scan.start.run a).pending.reverse ++ b ≠ [] := by
      intro h
      refine hp ?_
      rw [← List.reverse_eq_nil_iff, List.reverse_append, List.reverse_reverse]
      exact h
    simp [hp, hp']

theorem openText_append_of_open {quote : Char} (ha : openQuote a = some quote)
    (hb : ∀ c ∈ b, c ≠ quote) : openText (a ++ b) = openText a ++ b := by
  rw [openText, Scan.run_append, Scan.run_open (Scan.start_run_quote.trans ha) hb]
  simp [openText]

theorem openText_blanks_append {blanks : List Char} (hblanks : ∀ c ∈ blanks, Text.isBlank c) :
    openText (blanks ++ a) = openText a := by
  rw [openText, Scan.run_append, Scan.run_blanks rfl rfl hblanks, ← openText]

/-- A text that does not end in a blank ends in no open literal of blanks alone. -/
theorem openText_eq_nil (hlast : ∀ c ∈ a.getLast?, Text.isBlank c = false)
    (hblank : ∀ c ∈ openText a, Text.isBlank c) : openText a = [] := by
  rw [openText, List.reverse_eq_nil_iff]
  rw [openText] at hblank
  cases hp : (Scan.start.run a).pending with
  | nil => rfl
  | cons c pending =>
    have hc : Text.isBlank c := hblank c (by rw [hp]; simp)
    have hstart : Scan.start.Ends none := Scan.ends_of_pending_nil rfl
    rcases Scan.run_ends hstart with h | ⟨-, h⟩
    · exact absurd hc (by rw [h c (by rw [hp]; exact List.mem_cons_self)]; decide)
    · rw [hp, Option.or_none] at h
      exact absurd hc (by rw [hlast c h.symm]; decide)

/-! ## Texts that are put together -/

/-- Two texts around a connective. -/
theorem tokensOf_joined (ha : openQuote a = none) {c : Char} (hc : c = '&' ∨ c = '|') :
    tokensOf (a ++ [' ', c, c, ' '] ++ b) = tokensOf a ++ .bare (String.ofList [c, c]) :: tokensOf b := by
  have hquote : openQuote [c, c] = none := by rcases hc with rfl | rfl <;> rfl
  have hsymbol : tokensOf [c, c] = [.bare (String.ofList [c, c])] := by
    rcases hc with rfl | rfl <;> decide
  have hassoc : a ++ [' ', c, c, ' '] ++ b = a ++ ' ' :: ([c, c] ++ ' ' :: b) := by simp
  rw [hassoc, tokensOf_append_blank ha (by decide), tokensOf_append_blank hquote (by decide), hsymbol,
    List.singleton_append]

/-- A text in parentheses. -/
theorem tokensOf_group (ha : openQuote a = none) :
    tokensOf ('(' :: (a ++ ')' :: b)) = .bare "(" :: (tokensOf a ++ .bare ")" :: tokensOf b) := by
  have hopen := tokensOf_append_parenthesis (a := []) (b := a ++ ')' :: b) rfl (Or.inl rfl)
  rw [tokensOf_append_parenthesis ha (Or.inr rfl)] at hopen
  exact hopen

end TaskQuery
