/-
  TaskQuery — the caret of a rejection.

  The query is written again, token by token, and the caret stands under the token at the
  position of the rejection: what is in front of it in the line above are the tokens before
  this one, each with a blank behind it.

  * `spaced tokens`: tokens as they are written, each with a blank behind it;
    `caretColumn_eq`: its length is the column of the caret;
  * `markerLine tokens`: the line that is written again; `toList_markerLine_split` and
    `length_markerLine`: what it is around a token, and how long it is;
  * `Token.Lexical.break_not_mem_render` and `break_not_mem_markerLine`: no token goes on in the
    next line, and neither does the whole; `tokenize_markerLine`: if no literal has to be escaped,
    its tokens are those of the query;
  * `position_le_length`: no rejection is behind the end of the query;
  * `caret_under_offending_token`: where the caret of a rejected query stands.
-/
import TaskQuery.Display.QueryText
import TaskQuery.Proofs.Display.Lines
import TaskQuery.Proofs.Query.Limit
import TaskQuery.Proofs.Text.Quoted

namespace TaskQuery

/-! ## Lines and columns -/

/-- Tokens as they are written, each with a blank behind it. -/
def spaced (tokens : List Token) : List Char :=
  tokens.flatMap fun token => token.render.toList ++ [' ']

/-- Tokens as they are written, with a blank between them. -/
def markerLine (tokens : List Token) : String :=
  " ".intercalate (tokens.map Token.render)

variable {tokens : List Token} {token : Token}

/-- The caret stands behind the tokens before its position. -/
theorem caretColumn_eq (position : Nat) (tokens : List Token) :
    caretColumn position tokens = (spaced (tokens.take position)).length := by
  have hcolumn (tokens : List Token) :
      tokens.foldr (fun t column => t.render.length + 1 + column) 0 = (spaced tokens).length := by
    induction tokens with
    | nil => rfl
    | cons token tokens ih =>
      rw [List.foldr_cons, ih, spaced, spaced, List.flatMap_cons, List.length_append,
        List.length_append, String.length_toList]
      rfl
  exact hcolumn _

theorem toList_markerLine (tokens : List Token) : (markerLine tokens).toList =
    [' '].intercalate (tokens.map fun token => token.render.toList) := by
  rw [markerLine, String.toList_intercalate, List.map_map]
  rfl

/-- The line around a token. -/
theorem toList_markerLine_split (front : List Token) (token : Token) (back : List Token) :
    (markerLine (front ++ token :: back)).toList = spaced front ++
      (token.render.toList ++ back.flatMap fun token => ' ' :: token.render.toList) := by
  rw [toList_markerLine, List.map_append, List.map_cons, Text.intercalate_append_cons,
    List.flatMap_map, List.flatMap_map]
  rfl

/-- With a blank behind the last token, the line is one character longer. -/
theorem length_markerLine (hne : tokens ≠ []) :
    (spaced tokens).length = (markerLine tokens).length + 1 := by
  obtain ⟨front, last, rfl⟩ : ∃ front last, tokens = front ++ [last] :=
    ⟨tokens.dropLast, tokens.getLast hne, (List.dropLast_concat_getLast hne).symm⟩
  have hspaced : spaced (front ++ [last]) = spaced front ++ (last.render.toList ++ [' ']) := by
    simp [spaced]
  rw [← String.length_toList, toList_markerLine_split, hspaced]
  simp [Nat.add_assoc]

/-- The marker is the line, and the caret in its column below. -/
theorem errorMarker_eq (position : Nat) (tokens : List Token) :
    errorMarker false position tokens = "  " ++ markerLine tokens ++ "\n  " ++
      String.ofList (List.replicate (caretColumn position tokens) ' ') ++ "^\n" := by
  have hcaret (column : Nat) :
      padLeft (column + 1) "^" = String.ofList (List.replicate column ' ') ++ "^" := rfl
  rw [← String.toList_inj, errorMarker, hcaret]
  simp [paint, markerLine, unlines]

/-! ## Characters of the line -/

/-- No token of a query goes on in the next line. -/
theorem Token.Lexical.break_not_mem_render (h : token.Lexical) : '\n' ∉ token.render.toList := by
  unfold render
  split
  · exact (Text.not_mem_quote token.text).1
  · rename_i hbare
    intro hmem
    have hblank := h.not_blank (Bool.eq_false_iff.2 hbare) '\n' hmem
    exact absurd hblank (by decide)

theorem break_not_mem_markerLine (h : ∀ token ∈ tokens, token.Lexical) :
    '\n' ∉ (markerLine tokens).toList := by
  have hrender : ∀ token ∈ tokens, '\n' ∉ token.render.toList :=
    fun token ht => (h token ht).break_not_mem_render
  cases tokens with
  | nil => decide
  | cons token tokens =>
    obtain ⟨hfirst, hrest⟩ := List.forall_mem_cons.1 hrender
    have hsplit := toList_markerLine_split [] token tokens
    rw [List.nil_append] at hsplit
    rw [hsplit]
    simp only [spaced, List.flatMap_nil, List.nil_append, List.mem_append, List.mem_flatMap,
      List.mem_cons, not_or, not_exists, not_and]
    exact ⟨hfirst, fun token ht => ⟨by decide, hrest token ht⟩⟩

/-- A literal that is not escaped stands in its line as in a query. -/
theorem Token.spelled_render
    (h : token.quoted → Text.quote token.text = "\"" ++ token.text ++ "\"") :
    token.Spelled token.render.toList := by
  obtain ⟨text, quoted⟩ := token
  cases quoted with
  | false => exact .bare
  | true =>
    have hquote : Text.quote text = "\"" ++ text ++ "\"" := h rfl
    have hnot : '"' ∉ text.toList := by
      intro hmem
      have hshown := Text.quote_eq_iff.1 hquote '"' hmem
      exact absurd hshown (by decide)
    have hspelled := Spelled.literal (Or.inl rfl) hnot
    rw [String.ofList_toList] at hspelled
    have hrender : (render ⟨text, true⟩).toList = '"' :: (text.toList ++ ['"']) := by
      simp [render, hquote]
    rwa [hrender]

/-- **The line can be read again**, if no literal has to be escaped. -/
theorem tokenize_markerLine (hlexical : ∀ token ∈ tokens, token.Lexical)
    (h : ∀ token ∈ tokens, token.quoted → Text.quote token.text = "\"" ++ token.text ++ "\"") :
    tokenize (markerLine tokens) = tokens := by
  rw [tokenize_eq, toList_markerLine]
  have hspelled := spelledTokens_intercalate fun token ht => Token.spelled_render (h token ht)
  exact hspelled.tokensOf_eq hlexical

/-! ## Rejections -/

/-- No rejection is behind the end of the query. -/
theorem position_le_length {now : Instant} {r : Rejection} (h : parseTokens now tokens = .error r) :
    r.position ≤ tokens.length := by
  rcases parseTokens_eq_error_iff.1 h with ⟨-, hposition⟩ | ⟨-, used, d, hp, -, hposition⟩
  · rw [← Nat.zero_add r.position] at hposition
    obtain ⟨⟨token, ht, -⟩, -⟩ := getElem?_connectiveIndexes.1 hposition
    exact Nat.le_of_lt (List.getElem?_eq_some_iff.1 ht).1
  · obtain ⟨htokens, hindex⟩ := Cursor.passes_start_iff.1 hp
    rw [hposition, hindex, htokens, List.length_append]
    exact Nat.le_add_right _ _

/-- **The caret of a rejected query** is under the token at the position of the rejection, or
    just after the last one.  The query stands in one line above it; if no literal has to be
    escaped, this line has the same tokens. -/
theorem caret_under_offending_token {query : String} {now : Instant} {r : Rejection}
    (h : parseQuery query now = .error r) :
    ∃ line column,
      errorMarker false r.position (tokenize query) =
        "  " ++ line ++ "\n  " ++ String.ofList (List.replicate column ' ') ++ "^\n" ∧
      '\n' ∉ line.toList ∧
      ((∃ token rest, (tokenize query)[r.position]? = some token ∧
          line.toList = spaced ((tokenize query).take r.position) ++ (token.render.toList ++ rest) ∧
          column = (spaced ((tokenize query).take r.position)).length ∧
          (rest = [] ∨ rest.head? = some ' ')) ∨
        r.position = (tokenize query).length ∧ column = line.length + 1) ∧
      ((∀ token ∈ tokenize query, token.quoted →
          Text.quote token.text = "\"" ++ token.text ++ "\"") →
        tokenize line = tokenize query) := by
  obtain ⟨hne, hparse⟩ := parseQuery_rejects_iff.1 h
  have hlexical : ∀ token ∈ tokenize query, token.Lexical := fun token => lexical_of_mem_tokenize
  refine ⟨markerLine (tokenize query), _, errorMarker_eq _ _, break_not_mem_markerLine hlexical, ?_,
    tokenize_markerLine hlexical⟩
  rw [caretColumn_eq]
  rcases Nat.lt_or_eq_of_le (position_le_length hparse) with hlt | hend
  · left
    have hsplit : (tokenize query).take r.position ++ (tokenize query)[r.position] ::
        (tokenize query).drop (r.position + 1) = tokenize query := by
      rw [← List.drop_eq_getElem_cons hlt, List.take_append_drop]
    have hline := toList_markerLine_split ((tokenize query).take r.position)
      (tokenize query)[r.position] ((tokenize query).drop (r.position + 1))
    rw [hsplit] at hline
    refine ⟨_, _, List.getElem?_eq_getElem hlt, hline, rfl, ?_⟩
    cases (tokenize query).drop (r.position + 1) with
    | nil => exact Or.inl rfl
    | cons next rest => exact Or.inr rfl
  · right
    refine ⟨hend, ?_⟩
    rw [hend, List.take_length, length_markerLine hne]

/-- A literal behind a condition, which stands between other quotes in the line. -/
theorem caret_under_literal :
    parseQuery "done = true 'a b' x" ⟨0, 0⟩ = .error ⟨.unexpectedToken "a b", 3⟩ ∧
      ∃ line column, errorMarker false 3 (tokenize "done = true 'a b' x") =
        "  " ++ line ++ "\n  " ++ String.ofList (List.replicate column ' ') ++ "^\n" ∧
      tokenize line = tokenize "done = true 'a b' x" := by
  have herror : parseQuery "done = true 'a b' x" ⟨0, 0⟩ = .error ⟨.unexpectedToken "a b", 3⟩ := by
    decide +kernel
  have hplain : ∀ token ∈ tokenize "done = true 'a b' x", token.quoted →
      Text.quote token.text = "\"" ++ token.text ++ "\"" := by decide +kernel
  obtain ⟨line, column, hmarker, -, -, hread⟩ := caret_under_offending_token herror
  exact ⟨herror, line, column, hmarker, hread hplain⟩

end TaskQuery
