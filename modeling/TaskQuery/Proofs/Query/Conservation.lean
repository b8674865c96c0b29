/-
  TaskQuery — what tokens keep of a query, and where they end.

  The tokens of a query hold its characters in order, all but the quotes of literals and the
  blanks outside of them; and a piece of text ends only at a blank, a quote, a parenthesis or a
  connective.

  * `keptFrom quote text`: a text without those quotes and blanks, read from where `quote` is
    open; `Scan.collected_run`: the scanner collects it;
  * `EndsAtBlank tokens text`: outside quotes a blank stands behind the part of a text that some
    tokens are read from;
  * `Token.IsPiece`: a token is neither a literal nor a parenthesis or connective;
    `Scan.piecesEnd_step` and `piecesEnd_run`: a blank stands behind every such token that none
    of these follows directly;
  * `tokens_keep_text_in_order`: both, for every query.
-/
import Mathlib.Data.List.Induction
import TaskQuery.Proofs.Query.Gap
import TaskQuery.Proofs.Query.Scanning

namespace TaskQuery

/-! ## The text that is kept -/

/-- What is kept of a character: nothing of one that opens or closes a literal, nor of a blank
    outside literals. -/
def keptOf (quote : Option Char) (c : Char) : List Char :=
  if quoteAfter quote c ≠ quote ∨ quote = none ∧ Text.isBlank c then [] else [c]

/-- What is kept of a text, from a place where `quote` is open. -/
def keptFrom : Option Char → List Char → List Char
  | _, [] => []
  | quote, c :: rest => keptOf quote c ++ keptFrom (quoteAfter quote c) rest

/-- What is kept of a query: its text without the quotes of literals and the blanks outside of
    them. -/
def keptText (query : String) : List Char :=
  keptFrom none query.toList

/-- The texts of some tokens, one after the other. -/
def textOf (tokens : List Token) : List Char :=
  tokens.flatMap fun token => token.text.toList

theorem textOf_append (a b : List Token) : textOf (a ++ b) = textOf a ++ textOf b :=
  List.flatMap_append

namespace Scan

variable {s : Scan} {c : Char} {text : List Char} {quoted : Bool}

/-- The token that the pending text becomes, if it is not empty. -/
def ended (s : Scan) (quoted : Bool) : List Token :=
  if s.pending = [] then [] else [⟨String.ofList s.pending.reverse, quoted⟩]

theorem flush_tokens : (s.flush quoted).tokens.reverse = s.tokens.reverse ++ s.ended quoted := by
  by_cases hp : s.pending = [] <;> simp [flush, ended, hp]

theorem symbol_tokens :
    (s.symbol text).tokens.reverse =
      s.tokens.reverse ++ (s.ended false ++ [.bare (String.ofList text)]) := by
  rw [symbol, List.reverse_cons, flush_tokens, List.append_assoc]

theorem textOf_ended : textOf (s.ended quoted) = s.pending.reverse := by
  by_cases hp : s.pending = [] <;> simp [ended, textOf, hp]

/-- The text that the scanner holds: that of its tokens, then what is pending. -/
def collected (s : Scan) : List Char :=
  textOf s.tokens.reverse ++ s.pending.reverse

theorem collected_flush : (s.flush quoted).collected = s.collected := by
  rw [collected, flush_tokens, textOf_append, textOf_ended]
  exact List.append_nil _

theorem collected_symbol : (s.symbol text).collected = s.collected ++ text := by
  rw [collected, symbol_tokens, textOf_append, textOf_append, textOf_ended, collected]
  simp [symbol, flush, textOf]

theorem collected_push : (s.push c).collected = s.collected ++ [c] := by
  simp [collected, push]

/-- What one character outside quotes adds. -/
theorem collected_stepBare :
    (s.stepBare c).collected = s.collected ++ keptOf none c := by
  unfold stepBare
  split
  · rename_i hc
    -- the quote itself is not kept, and what is pending stays so
    have hkept : keptOf none c = [] := by simp [keptOf, quoteAfter, hc]
    rw [hkept, List.append_nil]
    rfl
  rename_i hquote
  have hnone : quoteAfter none c = none := if_neg hquote
  split
  · rename_i hc
    have hkept : keptOf none c = [c] := by rcases hc with rfl | rfl <;> decide
    rw [collected_symbol, hkept]
  split
  · rename_i hc
    -- the first character of the connective was pending already
    obtain ⟨pending, hpending⟩ := List.head?_eq_some_iff.1 hc.2
    have hkept : keptOf none c = [c] := by rcases hc.1 with rfl | rfl <;> decide
    rw [collected_symbol, hkept]
    simp [collected, hpending]
  split
  · rename_i hc
    have hkept : keptOf none c = [] := by simp [keptOf, hc]
    rw [collected_flush, hkept, List.append_nil]
  · rename_i hc
    have hkept : keptOf none c = [c] := by simp [keptOf, hnone, hc]
    rw [collected_push, hkept]

/-- What one character adds. -/
theorem collected_step : (s.step c).collected = s.collected ++ keptOf s.quote c := by
  unfold step
  cases hq : s.quote with
  | none => exact collected_stepBare
  | some opening =>
    dsimp only
    by_cases hc : c = opening
    · have hkept : keptOf (some opening) c = [] := by simp [keptOf, quoteAfter, hc]
      rw [if_pos hc, collected_flush, hkept, List.append_nil]
    · have hkept : keptOf (some opening) c = [c] := by simp [keptOf, quoteAfter, hc]
      rw [if_neg hc, collected_push, hkept]

/-- What a text adds. -/
theorem collected_run : (s.run text).collected = s.collected ++ keptFrom s.quote text := by
  induction text generalizing s with
  | nil => exact (List.append_nil _).symm
  | cons c text ih => rw [run_cons, ih, collected_step, step_quote, List.append_assoc, keptFrom]

/-- The end of the query adds nothing. -/
theorem textOf_finish : textOf s.finish = s.collected := by
  rw [finish, flush_tokens, textOf_append, textOf_ended, collected]

end Scan

/-- The tokens of a query hold what is kept of it. -/
theorem textOf_tokenize (query : String) : textOf (tokenize query) = keptText query := by
  rw [tokenize, Scan.textOf_finish, Scan.collected_run]
  rfl

/-! ## Where tokens end -/

/-- A token is a piece of text outside quotes: neither a literal nor structural. -/
def Token.IsPiece (token : Token) : Prop :=
  token.quoted = false ∧ token ∉ structural

/-- Outside quotes a blank stands behind the part of a text that the tokens are read from. -/
def EndsAtBlank (tokens : List Token) (text : List Char) : Prop :=
  ∃ a c b, text = a ++ c :: b ∧ openQuote a = none ∧ Text.isBlank c ∧ tokensOf a = tokens

theorem EndsAtBlank.append {tokens : List Token} {text : List Char} (h : EndsAtBlank tokens text)
    (more : List Char) : EndsAtBlank tokens (text ++ more) := by
  obtain ⟨a, c, b, rfl, ha, hc, htokens⟩ := h
  exact ⟨a, c, b ++ more, by simp, ha, hc, htokens⟩

/-- A blank stands behind every piece among the tokens that is not followed by a structural
    token. -/
def PiecesEnd (text : List Char) (tokens : List Token) : Prop :=
  ∀ before first after, tokens = before ++ first :: after → first.IsPiece →
    (∀ second ∈ after.head?, second ∉ Token.structural) → EndsAtBlank (before ++ [first]) text

/-- More text changes nothing about the tokens that are there. -/
theorem PiecesEnd.append {text : List Char} {tokens : List Token} (h : PiecesEnd text tokens)
    (more : List Char) : PiecesEnd (text ++ more) tokens :=
  fun before first after htokens hfirst hsecond =>
    (h before first after htokens hfirst hsecond).append more

/-- The pieces still end at blanks with the tokens that one more character adds, if those among
    them do. -/
theorem PiecesEnd.grow {text : List Char} {tokens more : List Token} {c : Char}
    (h : PiecesEnd text tokens)
    (hmore : ∀ before first after, more = before ++ first :: after → first.IsPiece →
      (∀ second ∈ after.head?, second ∉ Token.structural) →
      EndsAtBlank (tokens ++ before ++ [first]) (text ++ [c])) :
    PiecesEnd (text ++ [c]) (tokens ++ more) := by
  intro before first after htokens hfirst hsecond
  rcases eq_append_or_eq_append htokens.symm with ⟨mid, hold, rfl⟩ | ⟨mid, rfl, hnew⟩
  · refine (h before first mid hold hfirst fun second hhead => hsecond second ?_).append [c]
    rw [List.head?_append, Option.mem_def.1 hhead]
    rfl
  · exact hmore mid first after hnew hfirst hsecond

namespace Scan

variable {s : Scan} {c : Char} {text : List Char}

/-- What is pending becomes one token at most. -/
theorem eq_of_ended {quoted : Bool} {before after : List Token} {first : Token}
    (h : s.ended quoted = before ++ first :: after) :
    before = [] ∧ first.quoted = quoted ∧ after = [] := by
  unfold ended at h
  split at h
  · simp at h
  · cases before with
    | nil =>
      obtain ⟨rfl, rfl⟩ := List.cons.inj h
      exact ⟨rfl, rfl, rfl⟩
    | cons second before => simp at h

/-- What is pending needs no blank before a structural token. -/
theorem exists_structural_of_symbol {symbol : Token} (hsymbol : symbol ∈ Token.structural)
    {before after : List Token} {first : Token}
    (h : s.ended false ++ [symbol] = before ++ first :: after) (hfirst : first.IsPiece) :
    ∃ second ∈ after.head?, second ∈ Token.structural := by
  rcases eq_append_or_eq_append h.symm with ⟨mid, hmid, rfl⟩ | ⟨mid, -, hmid⟩
  · obtain ⟨-, -, rfl⟩ := eq_of_ended hmid
    exact ⟨symbol, rfl, hsymbol⟩
  · have hmem : first ∈ [symbol] := by simp [hmid]
    rw [List.mem_singleton.1 hmem] at hfirst
    exact absurd hsymbol hfirst.2

/-- What one character outside quotes preserves. -/
theorem piecesEnd_stepBare (hs : s = start.run text) (hq : s.quote = none)
    (h : PiecesEnd text s.tokens.reverse) :
    PiecesEnd (text ++ [c]) (s.stepBare c).tokens.reverse := by
  have hsymbol {s' : Scan} {symbol : List Char} (hold : s'.tokens = s.tokens)
      (hmem : Token.bare (String.ofList symbol) ∈ Token.structural) :
      PiecesEnd (text ++ [c]) (s'.symbol symbol).tokens.reverse := by
    -- the only piece it can add stands directly before the symbol
    rw [symbol_tokens, hold]
    refine h.grow fun before first after hmore hfirst hsecond => ?_
    obtain ⟨second, hhead, hstructural⟩ := exists_structural_of_symbol hmem hmore hfirst
    exact absurd hstructural (hsecond second hhead)
  unfold stepBare
  split
  · exact h.append [c]
  split
  · rename_i hc
    exact hsymbol rfl (by rcases hc with rfl | rfl <;> decide)
  split
  · rename_i hc
    exact hsymbol rfl (by rcases hc.1 with rfl | rfl <;> decide)
  split
  · rename_i hc
    have hopen : openQuote text = none := by rw [← start_run_quote, ← hs, hq]
    rw [flush_tokens]
    refine h.grow fun before first after hmore _ _ => ⟨text, c, [], rfl, hopen, hc, ?_⟩
    -- what is pending is the last token of the text before the blank
    obtain ⟨rfl, -, rfl⟩ := eq_of_ended hmore
    rw [← tokensOf_eq_flush hopen, ← hs, flush_tokens, hmore, List.append_nil]
    rfl
  · exact h.append [c]

/-- What one character preserves. -/
theorem piecesEnd_step (hs : s = start.run text) (h : PiecesEnd text s.tokens.reverse) :
    PiecesEnd (text ++ [c]) (s.step c).tokens.reverse := by
  unfold step
  cases hq : s.quote with
  | none => exact piecesEnd_stepBare hs hq h
  | some opening =>
    dsimp only
    split
    · -- the literal that ends here is no piece
      rw [flush_tokens]
      refine h.grow fun before first after hmore hfirst _ => ?_
      obtain ⟨-, hliteral, -⟩ := eq_of_ended hmore
      rw [hfirst.1] at hliteral
      cases hliteral
    · exact h.append [c]

end Scan

/-- It holds of every text: nothing has been read at the start, and every character preserves
    it. -/
theorem piecesEnd_run (text : List Char) : PiecesEnd text (Scan.start.run text).tokens.reverse := by
  induction text using List.reverseRecOn with
  | nil =>
    intro before first after h
    simp [Scan.run, Scan.start] at h
  | append_singleton text c ih =>
    rw [Scan.run_append]
    exact Scan.piecesEnd_step rfl ih

/-- **Tokens keep the text of a query in order, and divide it for a cause only.**  Their texts,
    one after the other, are the query without the quotes of literals and the blanks outside
    of them.  And of two tokens that stand side by side, neither of them a parenthesis or a
    connective, the first is a literal, or a blank outside quotes stands between them: it
    divides the query into the text that the tokens up to the first are read from, and the
    text of those from the second on. -/
theorem tokens_keep_text_in_order (query : String) :
    textOf (tokenize query) = keptText query ∧
    ∀ before first second after, tokenize query = before ++ first :: second :: after →
      first ∉ Token.structural → second ∉ Token.structural →
      first.quoted = true ∨
      ∃ left blank right, query = left ++ String.singleton blank ++ right ∧
        QuotesClosed left ∧ Text.isBlank blank ∧
        tokenize left = before ++ [first] ∧ tokenize right = second :: after := by
  refine ⟨textOf_tokenize query, fun before first second after htokens hfirst hsecond => ?_⟩
  by_cases hquoted : first.quoted = true
  · exact Or.inl hquoted
  right
  have hpiece : first.IsPiece := ⟨Bool.eq_false_iff.2 hquoted, hfirst⟩
  -- the first token is ended before the query is, since another one follows it
  have hends : EndsAtBlank (before ++ [first]) query.toList := by
    have hfinish := htokens
    rw [tokenize, Scan.finish, Scan.flush_tokens] at hfinish
    rcases eq_append_or_eq_append hfinish.symm with ⟨mid, hmid, hafter⟩ | ⟨mid, -, hlast⟩
    · refine piecesEnd_run query.toList before first mid hmid hpiece fun head hhead => ?_
      cases mid with
      | nil => cases hhead
      | cons next mid =>
        cases hhead
        rw [← (List.cons.inj hafter).1]
        exact hsecond
    · exact absurd (Scan.eq_of_ended hlast).2.2 (List.cons_ne_nil second after)
  obtain ⟨a, c, b, hquery, ha, hc, ha'⟩ := hends
  refine ⟨String.ofList a, c, String.ofList b, ?_, ?_, hc, ?_, ?_⟩
  · rw [← String.toList_inj]
    simpa using hquery
  · rwa [QuotesClosed, String.toList_ofList]
  · rwa [tokenize_eq, String.toList_ofList]
  · rw [tokenize_eq, hquery, tokensOf_append_blank ha hc, ha', List.append_assoc] at htokens
    rw [tokenize_eq, String.toList_ofList]
    exact (List.cons.inj (List.append_cancel_left htokens)).2

/-- A word before a literal, a word directly behind it, and a parenthesis. -/
theorem tokens_keep_text_in_order_mixed :
    let query := "say \"a b\"c  (d"
    textOf (tokenize query) = "saya bc(d".toList ∧
    tokenize query =
      [] ++ .bare "say" :: .literal "a b" :: [.bare "c", .bare "(", .bare "d"] ∧
    ((Token.bare "say").quoted = true ∨
      ∃ left blank right, query = left ++ String.singleton blank ++ right ∧
        QuotesClosed left ∧ Text.isBlank blank ∧ tokenize left = [] ++ [.bare "say"] ∧
        tokenize right = .literal "a b" :: [.bare "c", .bare "(", .bare "d"]) := by
  intro query
  have htokens : tokenize query =
      [] ++ .bare "say" :: .literal "a b" :: [.bare "c", .bare "(", .bare "d"] := by decide +kernel
  obtain ⟨htext, hdivided⟩ := tokens_keep_text_in_order query
  refine ⟨?_, htokens, hdivided _ _ _ _ htokens (by decide) (by decide)⟩
  rw [htext]
  decide +kernel

end TaskQuery
