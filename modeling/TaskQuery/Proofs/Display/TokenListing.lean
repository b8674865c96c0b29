/-
  TaskQuery — the listing of tokens is faithful.

  Every token of a query stands in a line of its own, behind its index.  A token outside quotes
  has neither quotes nor line breaks; a literal begins with a quote, and its line breaks are
  escaped.  So the one is never taken for the other, and none goes on in the next line.

  * `Token.listed`: a token as it is listed; `Token.Lexical.listed_inj`: the tokens of queries are
    told by it, and by `break_not_mem_listed` it is one line;
  * `listingMargin index`: what stands in front of a token; `getElem?_tokenLines`: the line with
    an index is its margin and the token with this index;
  * `tokenLines_inj`: tokens are told by their lines;
  * `listing_tells_tokens`: the lines of the listing of a query, and what it tells.
-/
import TaskQuery.Proofs.Display.Caret

namespace TaskQuery

/-! ## Tokens -/

/-- A token as it is listed: literals are quoted and marked. -/
def Token.listed (token : Token) : String :=
  token.render ++ if token.quoted then " (quoted)" else ""

namespace Token.Lexical

variable {token other : Token}

/-- A token outside quotes has no quote in it. -/
theorem quote_not_mem (h : token.Lexical) (hbare : token.quoted = false) :
    '"' ∉ token.text.toList := by
  rcases h.bare hbare with hs | hword
  · have hall : ∀ t ∈ structural, '"' ∉ t.text.toList := by decide
    exact hall token hs
  · intro hmem
    exact (hword.plain '"' hmem).2 (by decide)

/-- A token outside quotes is not taken for a literal. -/
theorem listed_ne (h : token.Lexical) (hbare : token.quoted = false) (hquoted : other.quoted = true) :
    token.listed ≠ other.listed := by
  intro heq
  have htoken : token.listed = token.text := by simp [listed, render, hbare]
  have hother : '"' ∈ other.listed.toList := by simp [listed, render, hquoted, Text.quote]
  rw [← heq, htoken] at hother
  exact h.quote_not_mem hbare hother

/-- **The tokens of queries are told by how they are listed.** -/
theorem listed_inj (h : token.Lexical) (h' : other.Lexical) (heq : token.listed = other.listed) :
    token = other := by
  cases hquoted : token.quoted with
  | false =>
    cases hother : other.quoted with
    | true => exact absurd heq (h.listed_ne hquoted hother)
    | false =>
      have htext : token.text = other.text := by simpa [listed, render, hquoted, hother] using heq
      rw [Token.mk.injEq]
      exact ⟨htext, hquoted.trans hother.symm⟩
  | true =>
    cases hother : other.quoted with
    | false => exact absurd heq.symm (h'.listed_ne hother hquoted)
    | true =>
      have hlisted := congrArg String.toList heq
      simp only [listed, render, hquoted, hother, if_true, String.toList_append] at hlisted
      rw [Token.mk.injEq]
      exact ⟨(Text.quote_append_inj hlisted).1, hquoted.trans hother.symm⟩

/-- A listed token is one line. -/
theorem break_not_mem_listed (h : token.Lexical) : '\n' ∉ token.listed.toList := by
  have hmark : '\n' ∉ (if token.quoted then " (quoted)" else "").toList := by split <;> decide
  rw [listed, String.toList_append, List.mem_append, not_or]
  exact ⟨h.break_not_mem_render, hmark⟩

end Token.Lexical

/-! ## Lines -/

/-- What stands in front of the token with an index. -/
def listingMargin (index : Nat) : String :=
  padLeft 3 (toString index) ++ "  "

variable {tokens others : List Token}

theorem tokenLines_cons (index : Nat) (token : Token) (tokens : List Token) :
    tokenLines index (token :: tokens) =
      (listingMargin index ++ token.listed) :: tokenLines (index + 1) tokens := by
  rw [tokenLines, listingMargin, Token.listed, ← String.append_assoc]

theorem length_tokenLines (index : Nat) (tokens : List Token) :
    (tokenLines index tokens).length = tokens.length := by
  induction tokens generalizing index with
  | nil => rfl
  | cons token tokens ih => rw [tokenLines_cons, List.length_cons, ih, List.length_cons]

/-- The line of a token is its index and the token. -/
theorem getElem?_tokenLines (index i : Nat) (tokens : List Token) : (tokenLines index tokens)[i]? =
    tokens[i]?.map fun token => listingMargin (index + i) ++ token.listed := by
  induction tokens generalizing index i with
  | nil => rfl
  | cons token tokens ih =>
    rw [tokenLines_cons]
    cases i with
    | zero => rfl
    | succ i =>
      rw [List.getElem?_cons_succ, List.getElem?_cons_succ, ih, Nat.add_assoc, Nat.add_comm 1]

theorem break_not_mem_listingMargin (index : Nat) : '\n' ∉ (listingMargin index).toList := by
  have hdigits : '\n' ∉ Nat.toDigits 10 index := by
    intro hmem
    have hdigit := Nat.isDigit_of_mem_toDigits (by decide) (by decide) hmem
    exact absurd hdigit (by decide)
  simp [listingMargin, padLeft, hdigits]

theorem break_not_mem_tokenLines (h : ∀ token ∈ tokens, token.Lexical) (index : Nat) :
    ∀ line ∈ tokenLines index tokens, '\n' ∉ line.toList := by
  induction tokens generalizing index with
  | nil => exact List.forall_mem_nil _
  | cons token tokens ih =>
    obtain ⟨htoken, htokens⟩ := List.forall_mem_cons.1 h
    rw [tokenLines_cons]
    refine List.forall_mem_cons.2 ⟨?_, ih htokens (index + 1)⟩
    rw [String.toList_append, List.mem_append, not_or]
    exact ⟨break_not_mem_listingMargin index, htoken.break_not_mem_listed⟩

/-- Tokens are told by their lines. -/
theorem tokenLines_inj (h : ∀ token ∈ tokens, token.Lexical) (h' : ∀ token ∈ others, token.Lexical)
    {index : Nat} (heq : tokenLines index tokens = tokenLines index others) : tokens = others := by
  induction tokens generalizing others index with
  | nil =>
    cases others with
    | nil => rfl
    | cons other others => cases heq
  | cons token tokens ih =>
    cases others with
    | nil => cases heq
    | cons other others =>
      obtain ⟨htoken, htokens⟩ := List.forall_mem_cons.1 h
      obtain ⟨hother, hothers⟩ := List.forall_mem_cons.1 h'
      rw [tokenLines_cons, tokenLines_cons, List.cons.injEq] at heq
      -- the margins are the same, since both tokens have the same index
      have hlisted : token.listed = other.listed := String.append_right_inj _ |>.1 heq.1
      rw [htoken.listed_inj hother hlisted, ih htokens hothers heq.2]

/-! ## Listings -/

/-- **The listing of a query is faithful.**  It has one line for every token, in order, with the
    index of the token in front; no line has a line break in it, so these are all line
    breaks there are.  And whatever the literals hold, queries with one listing have the same
    tokens. -/
theorem listing_tells_tokens (query : String) :
    (∃ lines, tokenListing (tokenize query) = unlines lines ∧
      lines.length = (tokenize query).length ∧
      (∀ i token, (tokenize query)[i]? = some token →
        lines[i]? = some (listingMargin i ++ token.listed)) ∧
      ∀ line ∈ lines, '\n' ∉ line.toList) ∧
    (tokenListing (tokenize query)).toList.count '\n' = (tokenize query).length ∧
    ∀ other, tokenListing (tokenize query) = tokenListing (tokenize other) ↔
      tokenize query = tokenize other := by
  have hlexical (query : String) : ∀ token ∈ tokenize query, token.Lexical :=
    fun token => lexical_of_mem_tokenize
  have hbreak (query : String) : ∀ line ∈ tokenLines 0 (tokenize query), '\n' ∉ line.toList :=
    break_not_mem_tokenLines (hlexical query) 0
  refine ⟨⟨tokenLines 0 (tokenize query), rfl, length_tokenLines _ _, fun i token ht => ?_,
    hbreak query⟩, ?_, fun other => ⟨fun heq => ?_, congrArg tokenListing⟩⟩
  · rw [getElem?_tokenLines, ht, Nat.zero_add]
    rfl
  · have hnone : ((tokenLines 0 (tokenize query)).flatMap String.toList).count '\n' = 0 := by
      rw [List.count_eq_zero, List.mem_flatMap]
      rintro ⟨line, hline, hmem⟩
      exact hbreak query line hline hmem
    rw [tokenListing, count_unlines, hnone, length_tokenLines]
    rfl
  · have hlines := (unlines_inj (hbreak query) (hbreak other)).1 heq
    exact tokenLines_inj (hlexical query) (hlexical other) hlines

/-- A literal with a line break, a mark and a quote in it, which might be taken for two lines. -/
example : tokenListing (tokenize "like 'x (quoted)\n  2  \"y'") =
    "  0  like\n  1  \"x (quoted)\\n  2  \\\"y\" (quoted)\n" := by
  decide +kernel

end TaskQuery
