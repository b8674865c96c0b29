/-
  TaskQuery — the normal text of an expression.

  The normal text has parentheses around every pair that is joined, so it nests as
  deep as the tree does.

  * `Expression.Forall P e`: all conditions have a property; `Expression.GroupsLead e`:
    after every `&&` stands a condition; `Expression.depth e`: the most connectives
    above a condition;
  * `Literal.ReadsBack` and `Condition.ReadsBack`: a text that is shown as it is, or a
    number that its text stands for, in a condition without a list;
  * `Expression.tokenize_toText_joined`: the tokens of the normal text of a pair;
  * `Expression.derives_toText`: the normal text is an operand with the same tree, if
    parentheses may nest so deep;
  * `Expression.around_toText`: else it has a parenthesis where none may be opened;
  * `normal_text_reads_back`: what the parser makes of the normal text.
-/
import TaskQuery.Proofs.Query.Fault
import TaskQuery.Proofs.Query.Lexeme
import TaskQuery.Number.Shortest

namespace TaskQuery

/-! ## Trees -/

namespace Expression

/-- All conditions of an expression have a property. -/
def Forall (P : Condition → Prop) : Expression → Prop
  | condition x => P x
  | joined _ left right => left.Forall P ∧ right.Forall P

/-- After every `&&` stands a condition. -/
def GroupsLead : Expression → Prop
  | condition _ => True
  | joined connective left right =>
    left.GroupsLead ∧ right.GroupsLead ∧ (connective = .and → ∃ x, right = condition x)

/-- The most connectives on the way to a condition. -/
def depth : Expression → Nat
  | condition _ => 0
  | joined _ left right => max left.depth right.depth + 1

end Expression

/-! ## What reads back -/

/-- A literal can be read back from its text: a text that is shown as it is, or a
    number that its text stands for. -/
def Literal.ReadsBack : Literal → Prop
  | text value => value ≠ "" ∧ Text.quote value = "\"" ++ value ++ "\""
  | list _ => False
  | number value => value.isFinite ∧ Number.ofText? value.toText = some value
  | bool _ => True

/-- A condition can be read back from its text. -/
def Condition.ReadsBack (x : Condition) : Prop :=
  x.operator.takesList = false ∧ x.value.ReadsBack

/-! ## Numbers -/

/-- A character of a number without an exponent. -/
def Number.IsPlainChar (c : Char) : Prop :=
  c.isDigit ∨ c = '.' ∨ c = '-'

theorem Number.isPlainChar_writeDecimal (d : Decimal) :
    ∀ c ∈ plain.writeDecimal d, IsPlainChar c := by
  have hdigits : ∀ c ∈ Nat.toDigits 10 d.digits, IsPlainChar c :=
    fun c hc => Or.inl (Nat.isDigit_of_mem_toDigits (by decide) (by decide) hc)
  have hzeros (n : Nat) : ∀ c ∈ List.replicate n '0', IsPlainChar c :=
    fun c hc => Or.inl (by rw [List.eq_of_mem_replicate hc]; decide)
  have hpoint : IsPlainChar '.' := Or.inr (Or.inl rfl)
  show ∀ c ∈ placePoint plain (Nat.toDigits 10 d.digits) _, IsPlainChar c
  unfold placePoint
  split
  · rw [plain, if_neg Bool.false_ne_true, List.append_nil]
    exact List.forall_mem_append.2 ⟨hdigits, hzeros _⟩
  split
  · refine List.forall_mem_append.2 ⟨fun c hc => hdigits c (List.mem_of_mem_take hc), ?_⟩
    exact List.forall_mem_cons.2 ⟨hpoint, fun c hc => hdigits c (List.mem_of_mem_drop hc)⟩
  · refine List.forall_mem_append.2 ⟨?_, hdigits⟩
    exact List.forall_mem_cons.2 ⟨Or.inl (by decide), List.forall_mem_cons.2 ⟨hpoint, hzeros _⟩⟩

theorem Number.isPlainChar_toText {n : Number} (hn : n.isFinite) :
    ∀ c ∈ n.toText.toList, IsPlainChar c := by
  cases n with
  | nan | infinite => cases hn
  | finite negative step =>
    rw [toText, Style.write, String.toList_ofList]
    refine List.forall_mem_append.2 ⟨fun c hc => ?_, isPlainChar_writeDecimal _⟩
    cases negative with
    | false => cases hc
    | true => exact Or.inr (Or.inr (List.mem_singleton.1 hc))

theorem isWord_of_isPlainChar {text : List Char} (h : ∀ c ∈ text, Number.IsPlainChar c) :
    IsWord text := by
  have hmarks : ∀ c ∈ ['.', '-'], Text.isBlank c = false ∧ c ∉ ['"', '\'', '(', ')', '&', '|'] :=
    List.forall_mem_cons.2 ⟨by decide, List.forall_mem_singleton.2 (by decide)⟩
  exact isWord_of_digits hmarks fun c hc => by simpa [Number.IsPlainChar] using h c hc

/-! ## Conditions -/

/-- **A literal that reads back is one token.** -/
theorem Literal.ReadsBack.tokensOf_toText {v : Literal} (h : v.ReadsBack) (now : Instant) :
    openQuote v.toText.toList = none ∧ ∃ token, token ∉ Token.structural ∧
      tokensOf v.toText.toList = [token] ∧ v = Parser.literalOf now token := by
  cases v with
  | text value =>
    obtain ⟨hne, hquote⟩ := h
    have hplain : ∀ c ∈ value.toList, c ≠ '"' := by
      rintro c hc rfl
      have hshown := Text.quote_eq_iff.1 hquote '"' hc
      exact absurd hshown (by decide)
    obtain ⟨hopen, htokens⟩ := tokensOf_literal (Or.inl rfl)
      (fun hnil => hne (String.toList_inj.1 hnil)) hplain []
    have htext : (toText (text value)).toList = '"' :: (value.toList ++ ['"']) := by
      simp [toText, hquote]
    rw [htext]
    refine ⟨hopen, .literal value, Token.literal_not_structural value, htokens.trans ?_, rfl⟩
    rw [String.ofList_toList]
    rfl
  | list items => exact h.elim
  | number value =>
    obtain ⟨hfinite, hread⟩ := h
    have hword : IsWord value.toText.toList := isWord_of_isPlainChar (Number.isPlainChar_toText hfinite)
    -- no other word is read as a finite number
    have hother (word : String) (hnone : Number.ofText? word = none) : value.toText ≠ word := by
      intro htext
      rw [htext, hnone] at hread
      cases hread
    obtain ⟨hopen, htokens⟩ := tokensOf_word hword
      fun hnil => hother "" (by decide) (String.toList_inj.1 hnil)
    refine ⟨hopen, .bare value.toText, ?_, ?_, ?_⟩
    · intro hs
      simp only [Token.structural, List.mem_cons, List.not_mem_nil, or_false, Token.mk.injEq,
        and_true] at hs
      rcases hs with hs | hs | hs | hs <;> exact hother _ (by decide) hs
    · rw [toText, htokens, String.ofList_toList]
    · simp [Parser.literalOf, hother "true" (by decide), hother "false" (by decide),
        hother "now" (by decide), hread, hfinite]
  | bool value =>
    cases value with
    | false => exact ⟨by decide, .bare "false", by decide, by decide, rfl⟩
    | true => exact ⟨by decide, .bare "true", by decide, by decide, rfl⟩

/-- **The text of a condition that reads back is that condition.** -/
theorem Condition.ReadsBack.derives_toText {x : Condition} (h : x.ReadsBack) (now : Instant) :
    openQuote x.toText.toList = none ∧ DerivesCondition now (tokenize x.toText) x := by
  obtain ⟨f, o, v⟩ := x
  obtain ⟨hscalar, hvalue⟩ := h
  obtain ⟨hopen, token, hnot, htoken, hv⟩ := hvalue.tokensOf_toText now
  have htext : (toText ⟨f, o, v⟩).toList =
      f.name.toList ++ ' ' :: (o.symbol.toList ++ ' ' :: v.toText.toList) := by
    simp [toText]
  obtain ⟨hclosed, hx⟩ := derives_conditionText hscalar hopen htoken hnot
  rw [← hv] at hx
  rw [tokenize_eq, htext]
  exact ⟨hclosed, hx⟩

/-! ## Expressions -/

namespace Expression

variable {e left right : Expression} {connective : Connective} {now : Instant} {n : Nat}

theorem toText_joined (connective : Connective) (left right : Expression) :
    ∃ c, (c = '&' ∨ c = '|') ∧ connective.symbol = String.ofList [c, c] ∧
      (joined connective left right).toText.toList =
        '(' :: (left.toText.toList ++ [' ', c, c, ' '] ++ right.toText.toList ++ [')']) := by
  cases connective with
  | and => exact ⟨'&', Or.inl rfl, rfl, by simp [toText, Connective.symbol]⟩
  | or => exact ⟨'|', Or.inr rfl, rfl, by simp [toText, Connective.symbol]⟩

/-- All quotes of the normal text are closed. -/
theorem openQuote_toText (h : e.Forall Condition.ReadsBack) : openQuote e.toText.toList = none := by
  induction e with
  | condition x => exact (Condition.ReadsBack.derives_toText h ⟨0, 0⟩).1
  | joined connective left right ihl ihr =>
    obtain ⟨c, hc, -, htext⟩ := toText_joined connective left right
    have hparen : openQuote ['('] = none := by decide
    have hjoin : openQuote [' ', c, c, ' '] = none := by rcases hc with rfl | rfl <;> decide
    rw [htext, ← List.singleton_append, openQuote_append hparen, List.append_assoc,
      List.append_assoc, openQuote_append (ihl h.1), openQuote_append hjoin, openQuote_append (ihr h.2)]
    rfl

/-- **The tokens of the normal text of a pair.** -/
theorem tokenize_toText_joined (h : (joined connective left right).Forall Condition.ReadsBack) :
    tokenize (joined connective left right).toText = .bare "(" ::
      ((tokenize left.toText ++ .bare connective.symbol :: tokenize right.toText) ++ [.bare ")"]) := by
  obtain ⟨c, hc, hsymbol, htext⟩ := toText_joined connective left right
  have hjoin : openQuote [' ', c, c, ' '] = none := by rcases hc with rfl | rfl <;> decide
  have hinner : openQuote (left.toText.toList ++ [' ', c, c, ' '] ++ right.toText.toList) = none := by
    rw [List.append_assoc, openQuote_append (openQuote_toText h.1), openQuote_append hjoin,
      openQuote_toText h.2]
  rw [tokenize_eq, htext, tokensOf_group hinner, tokensOf_joined (openQuote_toText h.1) hc, hsymbol]
  rfl

/-- **The normal text is an operand with the same tree**, if parentheses may nest as deep
    as the tree. -/
theorem derives_toText (hgroups : e.GroupsLead) (h : e.Forall Condition.ReadsBack)
    (hdepth : e.depth ≤ n) : Derives now .operand n (tokenize e.toText) e := by
  induction e generalizing n with
  | condition x => exact .condition (Condition.ReadsBack.derives_toText h now).2
  | joined connective left right ihl ihr =>
    obtain ⟨hgl, hgr, hand⟩ := hgroups
    cases n with
    | zero => exact absurd hdepth (Nat.not_succ_le_zero _)
    | succ n =>
      obtain ⟨hdl, hdr⟩ := Nat.max_le.1 (Nat.le_of_succ_le_succ hdepth)
      have hleft : Derives now .term n (tokenize left.toText) left := .operand (ihl hgl h.1 hdl)
      rw [tokenize_toText_joined h]
      cases connective with
      | or => exact .group (.or hleft (.term (.operand (ihr hgr h.2 hdr))))
      | and =>
        obtain ⟨x, rfl⟩ := hand rfl
        exact .group (.term (.and hleft (Condition.ReadsBack.derives_toText h.2 now).2))

/-- **The normal text of a deeper tree has a parenthesis where none may be opened.** -/
theorem around_toText (now : Instant) (hgroups : e.GroupsLead) (h : e.Forall Condition.ReadsBack)
    (hdepth : n < e.depth) :
    ∃ before after fill rest, Around now .operand n before (.operand 0) after fill ∧
      tokenize e.toText = before ++ .bare "(" :: rest := by
  induction e generalizing n with
  | condition x => exact absurd hdepth (Nat.not_lt_zero n)
  | joined connective left right ihl ihr =>
    obtain ⟨hgl, hgr, hand⟩ := hgroups
    rw [tokenize_toText_joined h]
    cases n with
    | zero => exact ⟨[], [], id, _, .here, rfl⟩
    | succ n =>
      have hdepth : n < max left.depth right.depth := Nat.lt_of_succ_lt_succ hdepth
      by_cases hleft : n < left.depth
      · obtain ⟨before, after, fill, rest, haround, htokens⟩ := ihl hgl h.1 hleft
        refine ⟨.bare "(" :: before, _, fill,
          rest ++ (.bare connective.symbol :: tokenize right.toText ++ [.bare ")"]),
          .group (.term (.operand haround)), ?_⟩
        rw [htokens]
        simp only [List.append_assoc, List.cons_append]
      · have hright : n < right.depth := by omega
        cases connective with
        | and =>
          obtain ⟨x, rfl⟩ := hand rfl
          exact absurd hright (Nat.not_lt_zero n)
        | or =>
          -- the left side is read before
          have hterm : Derives now .term n (tokenize left.toText) left :=
            .operand (derives_toText hgl h.1 (Nat.le_of_not_lt hleft))
          obtain ⟨before, after, fill, rest, haround, htokens⟩ := ihr hgr h.2 hright
          refine ⟨.bare "(" :: (tokenize left.toText ++ .bare "||" :: before), _, _,
            rest ++ [.bare ")"], .group (.or hterm (.term (.operand haround))), ?_⟩
          rw [htokens]
          simp only [Connective.symbol, List.append_assoc, List.cons_append]

end Expression

/-- **The normal text reads back.**  An expression in which a condition stands after
    every `&&`, of at most 512 conditions that can be read back, is the tree of its normal
    text, if at most 64 connectives stand above every condition.  Else its normal text
    nests too deep. -/
theorem normal_text_reads_back {e : Expression} (hgroups : e.GroupsLead)
    (hcount : e.conditions ≤ 512) (hvalues : e.Forall Condition.ReadsBack) (now : Instant) :
    (e.depth ≤ 64 → parseQuery e.toText now = .ok (some e)) ∧
      (64 < e.depth → ∃ position, parseQuery e.toText now = .error ⟨.tooDeep, position⟩) := by
  have hjoins : (tokenize e.toText).countP Token.joins < maxConditions := by
    have hderives : Derives now .operand e.depth (tokenize e.toText) e :=
      Expression.derives_toText hgroups hvalues (Nat.le_refl _)
    rw [e.conditions_eq] at hcount
    rw [hderives.countP_joins, maxConditions]
    omega
  constructor
  · intro hdepth
    exact parseQuery_eq_some_iff.2
      ⟨hjoins, .term (.operand (Expression.derives_toText hgroups hvalues hdepth))⟩
  · intro hdepth
    obtain ⟨before, after, fill, rest, haround, htokens⟩ :=
      Expression.around_toText now hgroups hvalues hdepth
    have hblocked : Gap.Blocked now (.operand 0) [] ⟨before.length, .bare "(" :: rest⟩ .tooDeep :=
      .tooDeep (by simp [Cursor.isAt])
    have hfault : Fault now before ⟨before.length, .bare "(" :: rest⟩ .tooDeep :=
      Around.fault (.term (.operand haround)) hblocked
    rw [htokens] at hjoins
    refine ⟨before.length, parseQuery_rejects_iff.2 ?_⟩
    rw [htokens]
    exact ⟨by simp, hfault.parseTokens_eq_error hjoins⟩

/-- A condition below `n` connectives. -/
def Expression.nested : (n : Nat) → Expression
  | 0 => .condition ⟨.done, .eq, .bool true⟩
  | n + 1 => .or (nested n) (.condition ⟨.done, .eq, .bool true⟩)

theorem Expression.nested_spec (n : Nat) : (nested n).GroupsLead ∧
    (nested n).Forall Condition.ReadsBack ∧ (nested n).depth = n ∧ (nested n).conditions = n + 1 := by
  induction n with
  | zero => exact ⟨trivial, ⟨rfl, trivial⟩, rfl, rfl⟩
  | succ n ih =>
    obtain ⟨hgroups, hvalues, hdepth, hconditions⟩ := ih
    refine ⟨⟨hgroups, trivial, nofun⟩, ⟨hvalues, rfl, trivial⟩, ?_, ?_⟩
    · simp [nested, depth, hdepth]
    · simp [nested, conditions, hconditions]

/-- A number, a text of characters that structure a query, and a truth value; and
    sixty-five parentheses that are open at once. -/
theorem normal_text_reads_back_mixed :
    (∃ e : Expression,
      e.toText = "((percentDone > 0.5 && project like \"&& ('\") || done = true)" ∧
      parseQuery e.toText ⟨0, 0⟩ = .ok (some e)) ∧
    ∃ position, parseQuery (Expression.nested 65).toText ⟨0, 0⟩ = .error ⟨.tooDeep, position⟩ := by
  constructor
  · have hnumber : Condition.ReadsBack ⟨.percentDone, .gt, .number (.ofRatio false 1 2)⟩ :=
      ⟨rfl, by decide +kernel, by decide +kernel⟩
    have htext : Condition.ReadsBack ⟨.project, .like, .text "&& ('"⟩ :=
      ⟨rfl, by decide, by decide +kernel⟩
    have hread := normal_text_reads_back
      (e := .or (.and (.condition _) (.condition _)) (.condition ⟨.done, .eq, .bool true⟩))
      ⟨⟨trivial, trivial, fun _ => ⟨_, rfl⟩⟩, trivial, nofun⟩ (by decide)
      ⟨⟨hnumber, htext⟩, rfl, trivial⟩ ⟨0, 0⟩
    exact ⟨_, by decide +kernel, hread.1 (by decide)⟩
  · obtain ⟨hgroups, hvalues, hdepth, hconditions⟩ := Expression.nested_spec 65
    have hcount : (Expression.nested 65).conditions ≤ 512 := by
      rw [hconditions]
      decide
    exact (normal_text_reads_back hgroups hcount hvalues ⟨0, 0⟩).2 (by rw [hdepth]; decide)

end TaskQuery
