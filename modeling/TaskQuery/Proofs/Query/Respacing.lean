/-
  TaskQuery — queries that are divided and spaced.

  Outside quotes a query can be cut at blanks, parentheses and connectives: the parts are
  scanned on their own.  So it does not matter which blanks stand there, or how many.

  * `CanFollow symbol text`: a parenthesis or connective can stand directly behind a text;
  * `tokensOf_append_structural`: there it divides, as a blank does;
  * `tokensOf_blanks_between` and `tokensOf_blanks_around`: so it does with blanks around it;
  * `Respaced text text'`: the texts differ in such blanks only; `tokensOf_respaced`: then they
    have the same tokens;
  * `separators_divide_queries`: the laws together, for queries.
-/
import TaskQuery.Proofs.Query.Scanning

namespace TaskQuery

variable {a b u v : List Char} {c : Char}

/-! ## Connectives -/

/-- Outside quotes a doubled character is a connective, if it is not the second half of one
    that is pending. -/
theorem Scan.run_connective {s : Scan} (hq : s.quote = none) (hc : c = '&' ∨ c = '|')
    (hp : s.pending.head? ≠ some c) : s.run [c, c] = s.symbol [c, c] := by
  have hquote : ¬ (c = '"' ∨ c = '\'') := by rcases hc with rfl | rfl <;> decide
  have hparen : ¬ (c = '(' ∨ c = ')') := by rcases hc with rfl | rfl <;> decide
  have hblank : ¬ Text.isBlank c := by rcases hc with rfl | rfl <;> decide
  have hfirst : s.step c = s.push c := by
    simp only [step, hq, stepBare, if_neg hquote, if_neg hparen]
    rw [if_neg fun h => hp h.2, if_neg hblank]
  have hsecond : (s.push c).step c = s.symbol [c, c] := by
    have hopen : (s.push c).quote = none := hq
    simp only [step, hopen, stepBare, if_neg hquote, if_neg hparen]
    exact if_pos ⟨hc, rfl⟩
  rw [run_cons, hfirst, run_cons, hsecond]
  rfl

/-- **A connective outside quotes divides, and is a token.** -/
theorem tokensOf_append_connective (ha : openQuote a = none) (hc : c = '&' ∨ c = '|')
    (hp : (Scan.start.run a).pending.head? ≠ some c) :
    tokensOf (a ++ [c, c] ++ b) = tokensOf a ++ .bare (String.ofList [c, c]) :: tokensOf b := by
  have hq : (Scan.start.run a).quote = none := Scan.start_run_quote.trans ha
  rw [tokensOf, Scan.run_append, Scan.run_append, Scan.run_connective hq hc hp,
    Scan.finish_run_of_pending_nil rfl rfl, Scan.symbol, List.reverse_cons, tokensOf_eq_flush ha,
    List.append_assoc, List.singleton_append]

/-- A parenthesis or connective can stand directly behind a text: not inside quotes, and no
    connective behind its own first half. -/
structure CanFollow (symbol : Token) (text : List Char) : Prop where
  structural : symbol ∈ Token.structural
  closed : openQuote text = none
  apart : ∀ c, symbol = .bare (String.ofList [c, c]) → (Scan.start.run text).pending.head? ≠ some c

/-- **A structural token divides** where it can stand. -/
theorem tokensOf_append_structural {symbol : Token} (h : CanFollow symbol a) :
    tokensOf (a ++ symbol.text.toList ++ b) = tokensOf a ++ symbol :: tokensOf b := by
  obtain ⟨hstructural, ha, hapart⟩ := h
  simp only [Token.structural, List.mem_cons, List.not_mem_nil, or_false] at hstructural
  rcases hstructural with rfl | rfl | rfl | rfl
  · rw [List.append_assoc]
    exact tokensOf_append_parenthesis ha (Or.inl rfl)
  · rw [List.append_assoc]
    exact tokensOf_append_parenthesis ha (Or.inr rfl)
  · exact tokensOf_append_connective ha (Or.inl rfl) (hapart '&' rfl)
  · exact tokensOf_append_connective ha (Or.inr rfl) (hapart '|' rfl)

/-! ## Blanks -/

/-- **Blanks divide**, and where nothing is pending none are needed. -/
theorem tokensOf_blanks_between (ha : openQuote a = none) (hu : ∀ c ∈ u, Text.isBlank c)
    (hne : u = [] → (Scan.start.run a).pending = []) :
    tokensOf (a ++ u ++ b) = tokensOf a ++ tokensOf b := by
  cases u with
  | nil =>
    have hq : (Scan.start.run a).quote = none := Scan.start_run_quote.trans ha
    have hflush : (Scan.start.run a).tokens.reverse = tokensOf a := by
      rw [← tokensOf_eq_flush ha, Scan.flush, hne rfl]
      rfl
    rw [List.append_nil, tokensOf, Scan.run_append, Scan.finish_run_of_pending_nil (hne rfl) hq,
      hflush]
  | cons c u =>
    rw [List.append_assoc, List.cons_append, tokensOf_append_blank ha (hu c List.mem_cons_self),
      tokensOf_blanks_append fun d hd => hu d (List.mem_cons_of_mem _ hd)]

/-- What can follow a text can also follow blanks behind it. -/
theorem CanFollow.append_blanks {symbol : Token} (h : CanFollow symbol a)
    (hu : ∀ c ∈ u, Text.isBlank c) : CanFollow symbol (a ++ u) := by
  refine ⟨h.structural, (openQuote_append_blanks hu).trans h.closed, fun c hc => ?_⟩
  cases u with
  | nil =>
    rw [List.append_nil]
    exact h.apart c hc
  | cons d u =>
    -- the first blank ends what is pending
    rw [Scan.run_append, Scan.run_cons,
      Scan.step_blank (Scan.start_run_quote.trans h.closed) (hu d List.mem_cons_self),
      Scan.run_blanks rfl rfl fun d' hd' => hu d' (List.mem_cons_of_mem _ hd')]
    exact (Option.some_ne_none c).symm

/-- **A structural token divides with any blanks around it.** -/
theorem tokensOf_blanks_around {symbol : Token} (h : CanFollow symbol a)
    (hu : ∀ c ∈ u, Text.isBlank c) (hv : ∀ c ∈ v, Text.isBlank c) :
    tokensOf (a ++ (u ++ symbol.text.toList ++ v) ++ b) = tokensOf a ++ symbol :: tokensOf b := by
  have hassoc : a ++ (u ++ symbol.text.toList ++ v) ++ b =
      a ++ u ++ symbol.text.toList ++ (v ++ b) := by simp
  rw [hassoc, tokensOf_append_structural (h.append_blanks hu), tokensOf_blanks_append hv,
    tokensOf_append_blanks hu h.closed]

/-- The texts differ only in blanks that stand between tokens. -/
inductive Respaced : List Char → List Char → Prop
  | refl {text : List Char} : Respaced text text
  /-- Other blanks between two parts, or none where nothing is pending. -/
  | between {a b u v : List Char} : openQuote a = none →
      (∀ c ∈ u, Text.isBlank c) → (∀ c ∈ v, Text.isBlank c) →
      (u = [] ∨ v = [] → (Scan.start.run a).pending = []) →
      Respaced (a ++ u ++ b) (a ++ v ++ b)
  /-- Other blanks, or none, on either side of a parenthesis or connective. -/
  | around {a b u v u' v' : List Char} {symbol : Token} : CanFollow symbol a →
      (∀ c ∈ u, Text.isBlank c) → (∀ c ∈ v, Text.isBlank c) →
      (∀ c ∈ u', Text.isBlank c) → (∀ c ∈ v', Text.isBlank c) →
      Respaced (a ++ (u ++ symbol.text.toList ++ v) ++ b)
        (a ++ (u' ++ symbol.text.toList ++ v') ++ b)
  /-- Other blanks, or none, at the end. -/
  | atEnd {a u v : List Char} : openQuote a = none →
      (∀ c ∈ u, Text.isBlank c) → (∀ c ∈ v, Text.isBlank c) → Respaced (a ++ u) (a ++ v)
  | trans {text text' text'' : List Char} :
      Respaced text text' → Respaced text' text'' → Respaced text text''

/-- **The blanks between tokens do not matter.** -/
theorem tokensOf_respaced (h : Respaced a b) : tokensOf a = tokensOf b := by
  induction h with
  | refl => rfl
  | between ha hu hv hpending =>
    rw [tokensOf_blanks_between ha hu fun hnil => hpending (Or.inl hnil),
      tokensOf_blanks_between ha hv fun hnil => hpending (Or.inr hnil)]
  | around hsymbol hu hv hu' hv' =>
    rw [tokensOf_blanks_around hsymbol hu hv, tokensOf_blanks_around hsymbol hu' hv']
  | atEnd ha hu hv => rw [tokensOf_append_blanks hu ha, tokensOf_append_blanks hv ha]
  | trans _ _ ih ih' => exact ih.trans ih'

/-! ## Queries -/

/-- **Blanks, parentheses and connectives divide a query.**  Behind a text with closed quotes, a
    blank makes the tokens those of the text and then those of the rest; so does a parenthesis
    or a connective, which is a token between them, unless the text pending before a
    connective ends in its character.  Hence queries that differ only in the blanks between
    tokens, and around parentheses and connectives, have the same tokens. -/
theorem separators_divide_queries :
    (∀ a b : String, QuotesClosed a →
      (∀ blank, Text.isBlank blank →
        tokenize (a ++ String.singleton blank ++ b) = tokenize a ++ tokenize b) ∧
      (∀ c, c = '(' ∨ c = ')' →
        tokenize (a ++ String.ofList [c] ++ b) =
          tokenize a ++ [.bare (String.ofList [c])] ++ tokenize b) ∧
      (∀ c, c = '&' ∨ c = '|' → (Scan.start.run a.toList).pending.head? ≠ some c →
        tokenize (a ++ String.ofList [c, c] ++ b) =
          tokenize a ++ [.bare (String.ofList [c, c])] ++ tokenize b)) ∧
    ∀ query query' : String,
      Respaced query.toList query'.toList → tokenize query = tokenize query' := by
  refine ⟨fun a b ha => ⟨fun blank hblank => ?_, fun c hc => ?_, fun c hc hp => ?_⟩,
    fun query query' => tokensOf_respaced⟩
  · rw [tokenize_eq, String.toList_append, String.toList_append, String.toList_singleton,
      List.append_assoc]
    exact tokensOf_append_blank ha hblank
  · rw [tokenize_eq, String.toList_append, String.toList_append, String.toList_ofList,
      List.append_assoc, List.append_assoc]
    exact tokensOf_append_parenthesis ha hc
  · rw [tokenize_eq, String.toList_append, String.toList_append, String.toList_ofList,
      List.append_assoc (tokenize a)]
    exact tokensOf_append_connective ha hc hp

/-- A text that ends in `&`: a tab, a parenthesis and the other connective divide it from what
    follows; and blanks around a parenthesis. -/
theorem separators_divide_queries_ampersands :
    QuotesClosed "labels like R&" ∧
    (Text.isBlank '\t' ∧
      tokenize ("labels like R&" ++ String.singleton '\t' ++ "done = true") =
        tokenize "labels like R&" ++ tokenize "done = true") ∧
    tokenize ("labels like R&" ++ String.ofList [')'] ++ "done = true") =
      tokenize "labels like R&" ++ [.bare (String.ofList [')'])] ++ tokenize "done = true" ∧
    ((Scan.start.run "labels like R&".toList).pending.head? ≠ some '|' ∧
      tokenize ("labels like R&" ++ String.ofList ['|', '|'] ++ "done = true") =
        tokenize "labels like R&" ++ [.bare (String.ofList ['|', '|'])] ++
          tokenize "done = true") ∧
    Respaced "x( a".toList "x \t (a".toList ∧ tokenize "x( a" = tokenize "x \t (a" := by
  have hclosed : QuotesClosed "labels like R&" := by rfl
  have hblank : Text.isBlank '\t' := by decide
  have hpending : (Scan.start.run "labels like R&".toList).pending.head? ≠ some '|' := by
    decide +kernel
  have hspaced : Respaced "x( a".toList "x \t (a".toList := by
    have hfollow : CanFollow (.bare "(") ['x'] :=
      ⟨by decide, by decide, fun c hc => by simp [String.ext_iff] at hc⟩
    -- none before the parenthesis and one behind it, then three and none
    exact @Respaced.around ['x'] ['a'] [] [' '] [' ', '\t', ' '] [] _ hfollow
      (List.all_eq_true.1 rfl) (List.all_eq_true.1 rfl)
      (List.all_eq_true.1 rfl) (List.all_eq_true.1 rfl)
  obtain ⟨hdivides, hrespaced⟩ := separators_divide_queries
  obtain ⟨hat, hparenthesis, hconnective⟩ := hdivides "labels like R&" "done = true" hclosed
  exact ⟨hclosed, ⟨hblank, hat '\t' hblank⟩, hparenthesis ')' (Or.inr rfl),
    ⟨hpending, hconnective '|' (Or.inr rfl) hpending⟩, hspaced, hrespaced _ _ hspaced⟩

end TaskQuery
