/-
  TaskQuery — what tokens look like.

  * `IsWord text`: a text that is scanned as one piece outside quotes: no blank, no
    quote, no parenthesis, and no doubled `&` or `|`; by `isWord_of_digits` digits are such
    a text, with other characters among them that do not divide;
  * `Token.Lexical token`: a literal lacks one of the two quotes, and any other token is
    structural or a word; neither is empty;
  * `lexical_of_mem_tokenize`: every token of a query is such a token; so outside
    quotes no blank is part of one (`Token.Lexical.not_blank`);
  * `tokensOf_word`: a word is scanned as one token; `tokensOf_condition`: the tokens of a
    field, an operator and a value; `derives_conditionText`: they are a condition;
  * `SpelledTokens tokens text`: the tokens can be written as the text, with blanks between
    them; `SpelledTokens.tokensOf_eq`: they are scanned from it, if they are lexical;
  * `writtenTokens tokens`: the query that tokens are, with the first quote that is
    possible around every literal; `tokenize_writtenTokens`: its tokens are the same;
  * `token_streams_of_queries`: a token stream is that of a query exactly if its tokens are
    lexical, however they are written.
-/
import TaskQuery.Proofs.Query.Grammar
import TaskQuery.Proofs.Query.Scanning

namespace TaskQuery

/-! ## Words -/

/-- The text can be scanned as one piece outside quotes. -/
structure IsWord (text : List Char) : Prop where
  /-- No character divides. -/
  plain : ∀ c ∈ text, Text.isBlank c = false ∧ c ∉ ['"', '\'', '(', ')']
  /-- No connective stands in it. -/
  single : ∀ c ∈ ['&', '|'], ¬ [c, c] <:+: text

/-- What a token of a query can be. -/
structure Token.Lexical (token : Token) : Prop where
  ne_empty : token.text ≠ ""
  literal : token.quoted = true → '"' ∉ token.text.toList ∨ '\'' ∉ token.text.toList
  bare : token.quoted = false → token ∈ structural ∨ IsWord token.text.toList

section
variable {text : List Char} {c : Char}

theorem isWord_nil : IsWord [] where
  plain := fun c hc => by cases hc
  single := fun c _ h => by simp at h

theorem isWord_reverse : IsWord text.reverse ↔ IsWord text := by
  have hpair (c : Char) : [c, c] <:+: text.reverse ↔ [c, c] <:+: text := by
    have hreverse : [c, c].reverse <:+: text.reverse ↔ [c, c] <:+: text := List.reverse_infix
    exact hreverse
  constructor
  · intro h
    exact ⟨fun c hc => h.plain c (List.mem_reverse.2 hc),
      fun c hc hin => h.single c hc ((hpair c).2 hin)⟩
  · intro h
    exact ⟨fun c hc => h.plain c (List.mem_reverse.1 hc),
      fun c hc hin => h.single c hc ((hpair c).1 hin)⟩

theorem isWord_cons : IsWord (c :: text) ↔ IsWord text ∧
    (Text.isBlank c = false ∧ c ∉ ['"', '\'', '(', ')']) ∧
    ¬ (c ∈ ['&', '|'] ∧ text.head? = some c) := by
  have hpair (d : Char) : [d, d] <:+: c :: text ↔ (d = c ∧ text.head? = some d) ∨ [d, d] <:+: text := by
    rw [List.infix_cons_iff, List.cons_prefix_cons]
    cases text with
    | nil => simp
    | cons first rest => simp [List.cons_prefix_cons, eq_comm]
  constructor
  · intro h
    refine ⟨⟨fun d hd => h.plain d (List.mem_cons_of_mem _ hd), fun d hd hin => ?_⟩,
      h.plain c List.mem_cons_self, fun hc => ?_⟩
    · exact h.single d hd ((hpair d).2 (Or.inr hin))
    · exact h.single c hc.1 ((hpair c).2 (Or.inl ⟨rfl, hc.2⟩))
  · rintro ⟨h, hc, hdouble⟩
    refine ⟨fun d hd => ?_, fun d hd hin => ?_⟩
    · rcases List.mem_cons.1 hd with rfl | hd
      · exact hc
      · exact h.plain d hd
    · rcases (hpair d).1 hin with ⟨rfl, hhead⟩ | hin
      · exact hdouble ⟨hd, hhead⟩
      · exact h.single d hd hin

instance decidableIsWord : (text : List Char) → Decidable (IsWord text)
  | [] => .isTrue isWord_nil
  | _ :: text =>
    have := decidableIsWord text
    decidable_of_iff _ isWord_cons.symm

end

/-- Digits and marks are a word, if no mark divides or joins. -/
theorem isWord_of_digits {text marks : List Char}
    (hmarks : ∀ c ∈ marks, Text.isBlank c = false ∧ c ∉ ['"', '\'', '(', ')', '&', '|'])
    (h : ∀ c ∈ text, c.isDigit ∨ c ∈ marks) : IsWord text := by
  have hplain {c : Char} (hc : c ∈ text) :
      Text.isBlank c = false ∧ c ∉ ['"', '\'', '(', ')', '&', '|'] := by
    rcases h c hc with hdigit | hmark
    · refine ⟨Text.isBlank_of_isDigit hdigit, fun hmem => ?_⟩
      simp only [List.mem_cons, List.not_mem_nil, or_false] at hmem
      rcases hmem with rfl | rfl | rfl | rfl | rfl | rfl <;> exact absurd hdigit (by decide)
    · exact hmarks c hmark
  refine ⟨fun c hc => ⟨(hplain hc).1, fun hmem => ?_⟩, fun c hc hin => ?_⟩
  · exact (hplain hc).2 (List.mem_append_left ['&', '|'] hmem)
  · have hmem : c ∈ text := hin.subset List.mem_cons_self
    exact (hplain hmem).2 (List.mem_append_right ['"', '\'', '(', ')'] hc)

/-! ## Every token is lexical -/

namespace Scan

/-- What the scanner keeps: all tokens are lexical, and what is pending can become one. -/
structure Lexical (s : Scan) : Prop where
  tokens : ∀ token ∈ s.tokens, token.Lexical
  word : s.quote = none → IsWord s.pending
  inside : ∀ quote, s.quote = some quote → (quote = '"' ∨ quote = '\'') ∧ quote ∉ s.pending

variable {s : Scan} {c : Char} {text : List Char}

theorem lexical_start : start.Lexical where
  tokens := fun token ht => by cases ht
  word := fun _ => isWord_nil
  inside := fun quote hq => by cases hq

/-- The pending text becomes a lexical token. -/
theorem Lexical.flush (h : s.Lexical) : (s.flush s.quote.isSome).Lexical := by
  refine ⟨fun token ht => ?_, fun _ => isWord_nil, fun quote hq => by cases hq⟩
  simp only [Scan.flush] at ht
  split at ht
  · exact h.tokens token ht
  · rename_i hpending
    rcases List.mem_cons.1 ht with rfl | ht
    · refine ⟨fun hempty => hpending ?_, fun hquoted => ?_, fun hquoted => Or.inr ?_⟩
      · rw [← List.reverse_eq_nil_iff]
        exact String.ofList_eq_empty_iff.1 hempty
      · obtain ⟨quote, hq⟩ := Option.isSome_iff_exists.1 hquoted
        obtain ⟨rfl | rfl, hnot⟩ := h.inside quote hq
        · exact Or.inl (by simpa using hnot)
        · exact Or.inr (by simpa using hnot)
      · have hq : s.quote = none := by simpa using hquoted
        rw [String.toList_ofList]
        exact isWord_reverse.2 (h.word hq)
    · exact h.tokens token ht

theorem Lexical.symbol (h : s.Lexical) (hq : s.quote = none)
    (htext : Token.bare (String.ofList text) ∈ Token.structural) : (s.symbol text).Lexical := by
  have hflush := h.flush
  rw [hq] at hflush
  refine ⟨fun token ht => ?_, fun _ => isWord_nil, fun quote hq => by cases hq⟩
  rcases List.mem_cons.1 ht with rfl | ht
  · refine ⟨fun hempty => ?_, (fun hquoted => by cases hquoted), fun _ => Or.inl htext⟩
    have hall : ∀ token ∈ Token.structural, token.text ≠ "" := by decide
    exact hall _ htext hempty
  · exact hflush.tokens token ht

/-- What one character outside quotes preserves. -/
theorem Lexical.stepBare (h : s.Lexical) (hq : s.quote = none) : (s.stepBare c).Lexical := by
  have hword := h.word hq
  have hflush := h.flush
  rw [hq] at hflush
  unfold Scan.stepBare
  split
  · rename_i hc
    refine ⟨h.tokens, (fun hnone => by cases hnone), fun quote hquote => ?_⟩
    cases hquote
    refine ⟨hc, fun hmem => (hword.plain c hmem).2 ?_⟩
    rcases hc with rfl | rfl <;> decide
  rename_i hnoquote
  split
  · rename_i hc
    exact h.symbol hq (by rcases hc with rfl | rfl <;> decide)
  rename_i hnoparen
  split
  · rename_i hc
    -- the connective takes the last pending character with it
    have htail : ({ s with pending := s.pending.tail } : Scan).Lexical := by
      refine ⟨h.tokens, fun _ => ?_, fun quote hquote => ?_⟩
      · obtain ⟨pending, hpending⟩ := List.head?_eq_some_iff.1 hc.2
        rw [hpending] at hword ⊢
        exact (isWord_cons.1 hword).1
      · rw [hq] at hquote
        cases hquote
    exact htail.symbol hq (by rcases hc.1 with rfl | rfl <;> decide)
  rename_i hsingle
  split
  · exact hflush
  · rename_i hblank
    have hplain : c ∉ ['"', '\'', '(', ')'] := by
      simp only [List.mem_cons, List.not_mem_nil, or_false, ← or_assoc]
      rw [or_assoc]
      exact not_or.2 ⟨hnoquote, hnoparen⟩
    have hpushed : IsWord (c :: s.pending) :=
      isWord_cons.2 ⟨hword, ⟨Bool.eq_false_iff.2 hblank, hplain⟩, by simpa using hsingle⟩
    refine ⟨h.tokens, fun _ => hpushed, fun quote hquote => ?_⟩
    rw [Scan.push, hq] at hquote
    cases hquote

/-- What one character preserves. -/
theorem Lexical.step (h : s.Lexical) : (s.step c).Lexical := by
  unfold Scan.step
  cases hq : s.quote with
  | none => exact h.stepBare hq
  | some opening =>
    obtain ⟨hopening, hnot⟩ := h.inside opening hq
    dsimp only
    split
    · have hflush := h.flush
      rwa [hq] at hflush
    · rename_i hc
      refine ⟨h.tokens, fun hnone => ?_, fun quote hquote => ?_⟩
      · rw [Scan.push, hq] at hnone
        cases hnone
      · rw [Scan.push, hq] at hquote
        cases hquote
        exact ⟨hopening, fun hmem => (List.mem_cons.1 hmem).elim (fun h => hc h.symm) hnot⟩

/-- What a text preserves. -/
theorem Lexical.run (h : s.Lexical) : (s.run text).Lexical := by
  induction text generalizing s with
  | nil => exact h
  | cons c text ih => exact ih h.step

end Scan

/-- **Every token of a query is lexical.** -/
theorem lexical_of_mem_tokenize {query : String} {token : Token} (h : token ∈ tokenize query) :
    token.Lexical := by
  have hrun : (Scan.start.run query.toList).Lexical := Scan.lexical_start.run
  exact hrun.flush.tokens token (List.mem_reverse.1 h)

/-- Outside quotes no blank is part of a token. -/
theorem Token.Lexical.not_blank {token : Token} (h : token.Lexical) (hbare : token.quoted = false) :
    ∀ c ∈ token.text.toList, Text.isBlank c = false := by
  rcases h.bare hbare with hs | hword
  · have hall : ∀ t ∈ structural, t.text.toList.all fun c => !Text.isBlank c := by decide
    simpa using hall token hs
  · exact fun c hc => (hword.plain c hc).1

/-! ## Words are tokens -/

theorem IsWord.of_append {a b : List Char} (h : IsWord (a ++ b)) : IsWord b where
  plain := fun c hc => h.plain c (List.mem_append_right a hc)
  single := fun c hc hin => h.single c hc (hin.trans (List.suffix_append a b).isInfix)

namespace Scan

variable {s : Scan} {c : Char} {text : List Char}

theorem step_word (hq : s.quote = none) (hc : IsWord (c :: s.pending)) : s.step c = s.push c := by
  obtain ⟨-, ⟨hblank, hplain⟩, hsingle⟩ := isWord_cons.1 hc
  simp only [List.mem_cons, List.not_mem_nil, or_false, not_or] at hplain hsingle
  obtain ⟨hdouble, hquote, hopen, hclose⟩ := hplain
  simp only [step, hq, stepBare]
  rw [if_neg (not_or.2 ⟨hdouble, hquote⟩), if_neg (not_or.2 ⟨hopen, hclose⟩), if_neg hsingle, hblank]
  rfl

/-- The characters of a word stay pending. -/
theorem run_word (hq : s.quote = none) (ht : IsWord (text.reverse ++ s.pending)) :
    s.run text = { s with pending := text.reverse ++ s.pending } := by
  induction text generalizing s with
  | nil => rfl
  | cons c text ih =>
    have hreverse : (c :: text).reverse ++ s.pending = text.reverse ++ (c :: s.pending) := by simp
    rw [hreverse] at ht ⊢
    rw [run_cons, step_word hq ht.of_append]
    exact ih (s := s.push c) hq ht

end Scan

/-- **A word is scanned as one token.** -/
theorem tokensOf_word {text : List Char} (h : IsWord text) (hne : text ≠ []) :
    openQuote text = none ∧ tokensOf text = [.bare (String.ofList text)] := by
  have hrun : Scan.start.run text = ⟨[], text.reverse, none⟩ := by
    rw [Scan.run_word rfl]
    · simp [Scan.start]
    · simpa [Scan.start] using isWord_reverse.2 h
  rw [← Scan.start_run_quote, tokensOf, hrun]
  simp [Scan.finish, Scan.flush, hne]

theorem tokensOf_fieldName (f : Field) :
    openQuote f.name.toList = none ∧ tokensOf f.name.toList = [.bare f.name] := by
  cases f <;> decide

theorem tokensOf_symbol (o : Operator) :
    openQuote o.symbol.toList = none ∧ tokensOf o.symbol.toList = o.tokens := by
  cases o <;> decide

/-- The tokens of a field, an operator and what stands after them. -/
theorem tokensOf_condition (f : Field) (o : Operator) (value : List Char) :
    tokensOf (f.name.toList ++ ' ' :: (o.symbol.toList ++ ' ' :: value)) =
      .bare f.name :: (o.tokens ++ tokensOf value) := by
  rw [tokensOf_append_blank (tokensOf_fieldName f).1 (by decide),
    tokensOf_append_blank (tokensOf_symbol o).1 (by decide), (tokensOf_fieldName f).2,
    (tokensOf_symbol o).2]
  rfl

/-- **A field, an operator and the text of one token are a condition**, and leave no quote
    open. -/
theorem derives_conditionText {now : Instant} {f : Field} {o : Operator} {value : List Char}
    {token : Token} (ho : o.takesList = false) (hopen : openQuote value = none)
    (htoken : tokensOf value = [token]) (hnot : token ∉ Token.structural) :
    openQuote (f.name.toList ++ ' ' :: (o.symbol.toList ++ ' ' :: value)) = none ∧
      DerivesCondition now (tokensOf (f.name.toList ++ ' ' :: (o.symbol.toList ++ ' ' :: value)))
        ⟨f, o, Parser.literalOf now token⟩ := by
  have hblank : openQuote [' '] = none := by decide
  constructor
  · rw [openQuote_append (tokensOf_fieldName f).1, ← List.singleton_append,
      openQuote_append hblank, openQuote_append (tokensOf_symbol o).1, ← List.singleton_append,
      openQuote_append hblank, hopen]
  · rw [tokensOf_condition, htoken]
    exact .scalar rfl ho hnot

/-! ## Token streams as queries -/

/-- How a token can be written: a literal stands between two quotes of a kind that is not in
    it, any other token as it is. -/
inductive Token.Spelled : Token → List Char → Prop
  | literal {text : List Char} {quote : Char} : quote = '"' ∨ quote = '\'' → quote ∉ text →
      Spelled (.literal (String.ofList text)) (quote :: (text ++ [quote]))
  | bare {text : String} : Spelled (.bare text) text.toList

/-- How a token stream can be written: with a blank between tokens. -/
inductive SpelledTokens : List Token → List Char → Prop
  | nil : SpelledTokens [] []
  | single {token text} : Token.Spelled token text → SpelledTokens [token] text
  | cons {token text second others more} : Token.Spelled token text →
      SpelledTokens (second :: others) more →
      SpelledTokens (token :: second :: others) (text ++ ' ' :: more)

/-- **A lexical token is scanned from its text.** -/
theorem Token.Lexical.tokensOf_spelled {token : Token} {text : List Char} (h : token.Lexical)
    (hs : token.Spelled text) : openQuote text = none ∧ tokensOf text = [token] := by
  cases hs with
  | @literal text quote hquote hnot =>
    have hne : text ≠ [] := by
      rintro rfl
      exact h.ne_empty rfl
    have hinside : ∀ c ∈ text, c ≠ quote := by
      rintro c hc rfl
      exact hnot hc
    exact tokensOf_literal hquote hne hinside []
  | @bare text =>
    rcases h.bare rfl with hs | hword
    · have hall : ∀ t ∈ structural, openQuote t.text.toList = none ∧ tokensOf t.text.toList = [t] := by
        decide
      exact hall _ hs
    · have hne : text.toList ≠ [] := fun hnil => h.ne_empty (String.toList_inj.1 hnil)
      have htokens := tokensOf_word hword hne
      rwa [String.ofList_toList] at htokens

/-- **A stream of lexical tokens is scanned from its text.** -/
theorem SpelledTokens.tokensOf_eq {tokens : List Token} {text : List Char}
    (hs : SpelledTokens tokens text) (h : ∀ token ∈ tokens, token.Lexical) : tokensOf text = tokens := by
  induction hs with
  | nil => rfl
  | single hs => exact ((h _ List.mem_cons_self).tokensOf_spelled hs).2
  | cons hs _ ih =>
    obtain ⟨htoken, hrest⟩ := List.forall_mem_cons.1 h
    obtain ⟨hopen, htokens⟩ := htoken.tokensOf_spelled hs
    rw [tokensOf_append_blank hopen (by decide), htokens, ih hrest]
    rfl

/-- The quote in which a literal is written: the first that does not stand in it. -/
def quoteFor (text : List Char) : Char :=
  if '"' ∈ text then '\'' else '"'

/-- The text of a token: a literal stands in quotes. -/
def Token.written (token : Token) : List Char :=
  let text := token.text.toList
  if token.quoted then quoteFor text :: (text ++ [quoteFor text]) else text

/-- The query that a token stream is, with a blank between tokens. -/
def writtenTokens (tokens : List Token) : String :=
  String.ofList ([' '].intercalate (tokens.map Token.written))

theorem quoteFor_not_mem {text : List Char} (h : '"' ∉ text ∨ '\'' ∉ text) : quoteFor text ∉ text := by
  unfold quoteFor
  split
  · rename_i hdouble
    exact h.resolve_left fun hnot => hnot hdouble
  · rename_i hdouble
    exact hdouble

theorem Token.Lexical.spelled_written {token : Token} (h : token.Lexical) :
    token.Spelled token.written := by
  obtain ⟨text, quoted⟩ := token
  cases quoted with
  | true =>
    have hquote : quoteFor text.toList = '"' ∨ quoteFor text.toList = '\'' := by
      unfold quoteFor
      split
      · exact Or.inr rfl
      · exact Or.inl rfl
    have hspelled := Spelled.literal hquote (quoteFor_not_mem (h.literal rfl))
    rwa [String.ofList_toList] at hspelled
  | false => exact .bare

/-- Tokens that are written one by one, with a blank between them. -/
theorem spelledTokens_intercalate {tokens : List Token} {write : Token → List Char}
    (h : ∀ token ∈ tokens, token.Spelled (write token)) :
    SpelledTokens tokens ([' '].intercalate (tokens.map write)) := by
  induction tokens with
  | nil => exact .nil
  | cons token rest ih =>
    obtain ⟨htoken, hrest⟩ := List.forall_mem_cons.1 h
    cases rest with
    | nil => simpa [List.intercalate] using SpelledTokens.single htoken
    | cons second others =>
      have hjoin : [' '].intercalate ((token :: second :: others).map write) =
          write token ++ ' ' :: [' '].intercalate ((second :: others).map write) := by
        simp [List.intercalate]
      rw [hjoin]
      exact .cons htoken (ih hrest)

theorem spelledTokens_writtenTokens {tokens : List Token} (h : ∀ token ∈ tokens, token.Lexical) :
    SpelledTokens tokens (writtenTokens tokens).toList := by
  rw [writtenTokens, String.toList_ofList]
  exact spelledTokens_intercalate fun token ht => (h token ht).spelled_written

/-- **Every stream of lexical tokens is a query.** -/
theorem tokenize_writtenTokens {tokens : List Token} (h : ∀ token ∈ tokens, token.Lexical) :
    tokenize (writtenTokens tokens) = tokens :=
  (spelledTokens_writtenTokens h).tokensOf_eq h

/-! ## The token streams of queries -/

/-- **The token streams of queries are those of lexical tokens.**  Every token of a query is
    lexical.  Any lexical tokens can be written with a blank between them, and are the
    tokens of every text in which they are, whichever quotes it chooses.  So the tokens
    of a query that is written again are the same. -/
theorem token_streams_of_queries :
    (∀ query, ∀ token ∈ tokenize query, token.Lexical) ∧
    (∀ tokens : List Token, (∀ token ∈ tokens, token.Lexical) →
      SpelledTokens tokens (writtenTokens tokens).toList ∧
        ∀ text, SpelledTokens tokens text → tokenize (String.ofList text) = tokens) ∧
    ∀ query text, SpelledTokens (tokenize query) text →
      tokenize (String.ofList text) = tokenize query := by
  have hspelled {tokens : List Token} {text : List Char} (h : ∀ token ∈ tokens, token.Lexical)
      (hs : SpelledTokens tokens text) : tokenize (String.ofList text) = tokens := by
    rw [tokenize_eq, String.toList_ofList]
    exact hs.tokensOf_eq h
  refine ⟨fun query token => lexical_of_mem_tokenize, fun tokens h => ?_, fun query text hs => ?_⟩
  · exact ⟨spelledTokens_writtenTokens h, fun text => hspelled h⟩
  · exact hspelled (fun token => lexical_of_mem_tokenize) hs

/-- Single connective characters, and literals that hold a quote and a connective. -/
theorem token_streams_of_queries_mixed :
    let tokens : List Token :=
      [.literal "it's", .bare "R&D", .bare "&", .bare "&", .literal "a && (b)", .bare ")"]
    (∀ token ∈ tokens, token.Lexical) ∧
      SpelledTokens tokens "\"it's\" R&D & & 'a && (b)' )".toList ∧
      tokenize "\"it's\" R&D & & 'a && (b)' )" = tokens := by
  intro tokens
  have hlexical : ∀ token ∈ tokens, token.Lexical := by
    have hand : (Token.bare "&").Lexical :=
      ⟨by decide, by decide, fun _ => Or.inr (by decide)⟩
    intro token ht
    simp only [tokens, List.mem_cons, List.not_mem_nil, or_false] at ht
    rcases ht with rfl | rfl | rfl | rfl | rfl | rfl
    · exact ⟨by decide, by decide, fun hbare => by cases hbare⟩
    · exact ⟨by decide, by decide, fun _ => Or.inr (by decide)⟩
    · exact hand
    · exact hand
    · exact ⟨by decide, by decide, fun hbare => by cases hbare⟩
    · exact ⟨by decide, by decide, fun _ => Or.inl (by decide)⟩
  have hspelled : SpelledTokens tokens "\"it's\" R&D & & 'a && (b)' )".toList :=
    .cons (@Token.Spelled.literal "it's".toList _ (Or.inl rfl) (by decide)) <|
      .cons .bare <| .cons .bare <| .cons .bare <|
        .cons (@Token.Spelled.literal "a && (b)".toList _ (Or.inr rfl) (by decide)) (.single .bare)
  exact ⟨hlexical, hspelled, (token_streams_of_queries.2.1 tokens hlexical).2 _ hspelled⟩

end TaskQuery
