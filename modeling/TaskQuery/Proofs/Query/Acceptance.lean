/-
  TaskQuery — which queries are accepted.

  * `Parser.Sound` and `Parser.expression_sound`: whatever the readers read is a
    phrase of the grammar, which does not go on after it;
  * `Parser.Continues` and `Parser.continues`: every phrase of the grammar is read,
    and its tree is built;
  * `Parser.reader_eq_ok_iff`: both together, for each kind of phrase;
  * `Derives.unique`: a token stream has at most one tree;
  * `parseTokens_eq_ok_iff` and `parseQuery_eq_some_iff`: what is accepted is what is
    grammatical; `parseQuery_eq_none_iff` and `parseQuery_eq_error_iff`: which queries
    are empty, and which are rejected;
  * `accepts_exactly_grammar`: all of this, with the limits in numbers.
-/
import TaskQuery.Proofs.Query.Reading

namespace TaskQuery

/-! ## The readers accept no more than the grammar -/

namespace Parser

variable {now : Instant} {n : Nat} {c d : Cursor}

/-- The reader of a kind of phrase. -/
def reader (now : Instant) (n : Nat) : Phrase → Parser Expression
  | .operand => operand now n
  | .term => term now n
  | .expression => expression now n

/-- What a reader reads is a phrase, which does not go on. -/
def Sound (now : Instant) (phrase : Phrase) (n : Nat) (p : Parser Expression) : Prop :=
  ∀ c e d, p c = .ok (e, d) →
    ∃ used, c.Passes used d ∧ Derives now phrase n used e ∧ d.Bounds used e ∧ d.Stops phrase

theorem Sound.advances {phrase : Phrase} {p : Parser Expression} (h : Sound now phrase n p) :
    p.Advances := by
  intro c e d hp
  obtain ⟨used, hu, hd, -⟩ := h c e d hp
  exact hu.length_lt hd.ne_nil

/-- A term that goes on is a term: by induction on the tokens that are left. -/
theorem continueTerm_sound {tokens : List Token} {e e' : Expression}
    (h : continueTerm now e c = .ok (e', d)) (he : Derives now .term n tokens e)
    (hc : c.Bounds tokens e) :
    ∃ used, c.Passes used d ∧ Derives now .term n (tokens ++ used) e' ∧
      d.Bounds (tokens ++ used) e' ∧ d.isAt (.bare "&&") = false := by
  induction hk : c.rest.length using Nat.strongRecOn generalizing c e tokens with
  | _ k ih =>
    rw [continueTerm_eq] at h
    split at h
    · rename_i hat
      obtain ⟨⟨x, c'⟩, hx, h⟩ := bind_eq_ok.1 h
      obtain ⟨more, hmore, hp, hhalts⟩ := condition_iff.1 hx
      have hp := (Cursor.isAt_iff.1 hat).trans hp
      have hbounds : c'.Bounds (tokens ++ .bare "&&" :: more) (.and e (.condition x)) :=
        (Cursor.bounds_append hmore.ne_nil).2 ((Cursor.bounds_condition hmore).2 hhalts)
      obtain ⟨used, hu, hd⟩ :=
        ih _ (hk ▸ hp.length_lt (List.cons_ne_nil _ _)) h (.and he hmore) hbounds rfl
      refine ⟨_, hp.trans hu, ?_⟩
      rw [List.append_assoc, List.cons_append] at hd
      exact hd
    · rename_i hat
      cases h
      refine ⟨[], Cursor.passes_nil.2 rfl, ?_⟩
      rw [List.append_nil]
      exact ⟨he, hc, Bool.eq_false_iff.2 hat⟩

variable {group : Parser Expression}

theorem termWith_sound (h : Sound now .operand n (operandWith now group)) :
    Sound now .term n (termWith now group) := by
  intro c e d ht
  rw [termWith_eq] at ht
  obtain ⟨⟨first, c'⟩, hfirst, ht⟩ := bind_eq_ok.1 ht
  obtain ⟨used, hu, hd, hbounds, -⟩ := h _ _ _ hfirst
  obtain ⟨more, hm, he⟩ := continueTerm_sound ht (.operand hd) hbounds
  exact ⟨_, hu.trans hm, he⟩

theorem expressionWith_sound (h : Sound now .term n (termWith now group)) :
    Sound now .expression n (expressionWith now group) := by
  intro c e d he
  induction hk : c.rest.length using Nat.strongRecOn generalizing c e with
  | _ k ih =>
    rw [expressionWith_eq] at he
    obtain ⟨⟨first, c'⟩, hfirst, he⟩ := bind_eq_ok.1 he
    obtain ⟨used, hu, hd, hbounds, hstops⟩ := h _ _ _ hfirst
    dsimp only at he
    rw [continueExpression_eq h.advances] at he
    split at he
    · rename_i hat
      obtain ⟨⟨e', c''⟩, he', heq⟩ := bind_eq_ok.1 he
      cases heq
      have hu := hu.trans (Cursor.isAt_iff.1 hat)
      obtain ⟨more, hm, hd', hbounds', hstops'⟩ := ih _ (hk ▸ hu.length_lt (by simp)) _ _ he' rfl
      refine ⟨_, hu.trans hm, ?_⟩
      rw [List.append_assoc]
      exact ⟨.or hd hd', (Cursor.bounds_append hd'.ne_nil).2 hbounds', hstops'⟩
    · rename_i hat
      cases he
      exact ⟨used, hu, .term hd, hbounds, hstops, Bool.eq_false_iff.2 hat⟩

theorem closed_sound {inner : Parser Expression} (h : Sound now .expression n inner)
    (hat : c.isAt (.bare "(")) {e : Expression} (hc : closed inner c = .ok (e, d)) :
    ∃ used, c.Passes used d ∧ Derives now .operand (n + 1) used e ∧ d.Bounds used e := by
  obtain ⟨⟨e', c'⟩, he, hc⟩ := bind_eq_ok.1 hc
  obtain ⟨used, hu, hd, -⟩ := h _ _ _ he
  dsimp only at hc
  split at hc
  · rename_i hat'
    cases hc
    have hp := (Cursor.isAt_iff.1 hat).trans (hu.trans (Cursor.isAt_iff.1 hat'))
    exact ⟨_, hp, .group hd, Cursor.bounds_group⟩
  · simp [Cursor.reject] at hc

theorem operandWith_sound
    (h : ∀ c e d, c.isAt (.bare "(") → group c = .ok (e, d) →
      ∃ used, c.Passes used d ∧ Derives now .operand n used e ∧ d.Bounds used e) :
    Sound now .operand n (operandWith now group) := by
  intro c e d he
  unfold operandWith at he
  split at he
  · rename_i hat
    obtain ⟨used, hp, hd, hbounds⟩ := h _ _ _ hat he
    exact ⟨used, hp, hd, hbounds, trivial⟩
  · cases hx : condition now c with
    | error r => simp [hx, Except.map] at he
    | ok p =>
      simp only [hx, Except.map, Except.ok.injEq, Prod.mk.injEq] at he
      obtain ⟨rfl, rfl⟩ := he
      obtain ⟨used, hu, hp, hhalts⟩ := condition_iff.1 hx
      exact ⟨used, hp, .condition hu, (Cursor.bounds_condition hu).2 hhalts, trivial⟩

/-- By induction on how many parentheses may be opened. -/
theorem operand_sound (n : Nat) : Sound now .operand n (operand now n) := by
  induction n with
  | zero => exact operandWith_sound fun c e d _ h => by simp [group, Cursor.reject] at h
  | succ n ih =>
    exact operandWith_sound fun c e d hat h =>
      closed_sound (expressionWith_sound (termWith_sound ih)) hat h

theorem term_sound (n : Nat) : Sound now .term n (term now n) :=
  termWith_sound (operand_sound n)

theorem expression_sound (n : Nat) : Sound now .expression n (expression now n) :=
  expressionWith_sound (term_sound n)

/-! ## The readers accept no less than the grammar -/

/-- What reading a phrase of each kind comes to, if the phrase stands between the
    places `c` and `d`: a term may go on after it, an expression has to be over. -/
def Continues (now : Instant) (n : Nat) (e : Expression) (c d : Cursor) : Phrase → Prop
  | .operand => operand now n c = .ok (e, d)
  | .term => term now n c = continueTerm now e d
  | .expression => d.isAt (.bare "&&") = false → d.isAt (.bare "||") = false →
      expression now n c = .ok (e, d)

theorem continueTerm_of_not_isAt {e : Expression} (h : d.isAt (.bare "&&") = false) :
    continueTerm now e d = .ok (e, d) := by
  rw [continueTerm_eq, h]
  rfl

theorem continueExpression_of_not_isAt {e : Expression} (h : d.isAt (.bare "||") = false) :
    continueExpression now (Parser.group now n) e d = .ok (e, d) := by
  rw [continueExpression_eq (term_sound n).advances, h]
  rfl

/-- No condition begins with a parenthesis. -/
theorem isAt_condition {tokens : List Token} {x : Condition} (hx : DerivesCondition now tokens x)
    (h : c.Passes tokens d) : c.isAt (.bare "(") = false := by
  cases tokens with
  | nil => exact absurd rfl hx.ne_nil
  | cons first rest =>
    refine h.isAt_eq_false ?_
    rintro rfl
    exact hx.head_not_structural _ rfl (by decide)

/-- **The readers build the trees of the grammar**, up to a place where no list goes
    on: by induction on the derivation. -/
theorem continues {phrase : Phrase} {tokens : List Token} {e : Expression}
    (h : Derives now phrase n tokens e) :
    ∀ {c d : Cursor}, c.Passes tokens d → d.Bounds tokens e → Continues now n e c d phrase := by
  induction h with
  | @condition n tokens x hx =>
    intro c d hp hd
    have hc : condition now c = .ok (x, d) :=
      condition_iff.2 ⟨_, hx, hp, (Cursor.bounds_condition hx).1 hd⟩
    simp only [Continues, operand, operandWith, isAt_condition hx hp, hc]
    rfl
  | @group n tokens e _ ih =>
    intro c d hp _
    obtain ⟨c₁, h₁, c₂, h₂, h₃⟩ := hp.between_cons
    have hat : c₂.isAt (.bare ")") := Cursor.isAt_of_passes h₃
    have he : expression now n c₁ = .ok (e, c₂) :=
      ih h₂ (h₃.halts (by decide)).bounds (h₃.isAt_eq_false (by decide))
        (h₃.isAt_eq_false (by decide))
    simp only [Continues, operand, operandWith, group, closed, Cursor.isAt_of_passes hp, if_true]
    rw [← h₁.eq_skip_one, ← expression, he]
    simp only [bind, Except.bind, hat, if_true, h₃.eq_skip_one]
  | operand _ ih =>
    intro c d hp hd
    have ho := ih hp hd
    simp only [Continues, term, termWith_eq] at ho ⊢
    rw [← operand, ho]
    rfl
  | @and n tokens more e x _ hx ih =>
    intro c d hp hd
    obtain ⟨c₁, h₁, h₂⟩ := hp.between
    obtain ⟨c₂, h₂, h₃⟩ := Cursor.Passes.between_one h₂
    have ht := ih h₁ (h₂.halts (by decide)).bounds
    have hhalts := (Cursor.bounds_condition hx).1 ((Cursor.bounds_append hx.ne_nil).1 hd)
    have hc : condition now c₂ = .ok (x, d) := condition_iff.2 ⟨_, hx, h₃, hhalts⟩
    simp only [Continues] at ht ⊢
    rw [ht, continueTerm_eq, if_pos (Cursor.isAt_of_passes h₂), ← h₂.eq_skip_one, hc]
    rfl
  | term _ ih =>
    intro c d hp hd hand hor
    have ht := ih hp hd
    simp only [Continues] at ht
    rw [expression, expressionWith_eq, ← term, ht, continueTerm_of_not_isAt hand]
    exact continueExpression_of_not_isAt hor
  | @or n tokens more e e' _ hmore ih ih' =>
    intro c d hp hd hand hor
    obtain ⟨c₁, h₁, h₂⟩ := hp.between
    obtain ⟨c₂, h₂, h₃⟩ := Cursor.Passes.between_one h₂
    have ht := ih h₁ (h₂.halts (by decide)).bounds
    have he : expression now n c₂ = .ok (e', d) :=
      ih' h₃ ((Cursor.bounds_append hmore.ne_nil).1 hd) hand hor
    simp only [Continues] at ht
    rw [expression, expressionWith_eq, ← term, ht,
      continueTerm_of_not_isAt (h₂.isAt_eq_false (by decide))]
    show continueExpression now (Parser.group now n) e c₁ = _
    rw [continueExpression_eq (term_sound n).advances, if_pos (Cursor.isAt_of_passes h₂),
      ← h₂.eq_skip_one, ← expression, he]
    rfl

/-- **The readers read as far as a phrase goes**, and no further. -/
theorem reader_eq_ok_iff {phrase : Phrase} {e : Expression} :
    reader now n phrase c = .ok (e, d) ↔
      ∃ used, c.Passes used d ∧ Derives now phrase n used e ∧ d.Bounds used e ∧ d.Stops phrase := by
  constructor
  · intro h
    cases phrase with
    | operand => exact operand_sound n _ _ _ h
    | term => exact term_sound n _ _ _ h
    | expression => exact expression_sound n _ _ _ h
  · rintro ⟨used, hp, he, hbounds, hstops⟩
    have hc := continues he hp hbounds
    cases phrase with
    | operand => exact hc
    | term => exact hc.trans (continueTerm_of_not_isAt hstops)
    | expression => exact hc hstops.1 hstops.2

/-- A whole token stream is read as an expression exactly if it is one. -/
theorem expression_start_iff {tokens : List Token} {e : Expression} :
    (∃ d, expression now n (.start tokens) = .ok (e, d) ∧ d.rest = []) ↔
      Derives now .expression n tokens e := by
  constructor
  · rintro ⟨d, he, hd⟩
    obtain ⟨used, hu, h, -⟩ := expression_sound n _ _ _ he
    have ht : tokens = used := by rw [← List.append_nil used, ← hd]; exact hu.1
    rwa [ht]
  · intro h
    have hend : (⟨tokens.length, []⟩ : Cursor).Halts := by rintro token ⟨⟩
    exact ⟨_, continues h Cursor.passes_start hend.bounds rfl rfl, rfl⟩

end Parser

/-! ## Queries -/

section
variable {now : Instant}

/-- A token stream has at most one tree. -/
theorem Derives.unique {tokens : List Token} {e e' : Expression} {n m : Nat}
    (h : Derives now .expression n tokens e) (h' : Derives now .expression m tokens e') : e = e' := by
  obtain ⟨d, he, -⟩ := Parser.expression_start_iff.2 (h.mono (Nat.le_max_left n m))
  obtain ⟨d', he', -⟩ := Parser.expression_start_iff.2 (h'.mono (Nat.le_max_right n m))
  rw [he] at he'
  cases he'
  rfl

theorem connectiveIndexes_getElem?_eq_none_iff {tokens : List Token} :
    (connectiveIndexes 0 tokens)[maxConditions - 1]? = none ↔
      tokens.countP Token.joins < maxConditions := by
  rw [List.getElem?_eq_none_iff, length_connectiveIndexes, maxConditions]
  omega

theorem parseTokens_eq_ok_iff {tokens : List Token} {e : Expression} :
    parseTokens now tokens = .ok e ↔ Grammatical now tokens e := by
  rw [Grammatical, ← connectiveIndexes_getElem?_eq_none_iff, ← Parser.expression_start_iff, parseTokens]
  cases hi : (connectiveIndexes 0 tokens)[maxConditions - 1]? with
  | some position => simp
  | none =>
    simp only [true_and, Parser.bind_eq_ok, Prod.exists]
    constructor
    · rintro ⟨e', d, he, h⟩
      cases hd : d.rest with
      | nil =>
        simp only [hd, Except.ok.injEq] at h
        exact ⟨d, h ▸ he, hd⟩
      | cons token rest => simp [hd, Cursor.reject] at h
    · rintro ⟨d, he, hd⟩
      exact ⟨e, d, he, by simp only [hd]⟩

theorem parseQuery_eq_some_iff {query : String} {e : Expression} :
    parseQuery query now = .ok (some e) ↔ Grammatical now (tokenize query) e := by
  rw [← parseTokens_eq_ok_iff, parseQuery]
  cases ht : tokenize query with
  | nil =>
    have hn : ¬ Grammatical now [] e := fun h => h.2.ne_nil rfl
    simp [parseTokens_eq_ok_iff, hn]
  | cons token rest =>
    cases hp : parseTokens now (token :: rest) <;> simp [Except.map, hp]

/-- A query without tokens is empty, and no other. -/
theorem parseQuery_eq_none_iff {query : String} :
    parseQuery query now = .ok none ↔ tokenize query = [] := by
  rw [parseQuery]
  cases tokenize query with
  | nil => exact iff_of_true rfl rfl
  | cons token rest => cases hp : parseTokens now (token :: rest) <;> simp [Except.map, hp]

/-- A query is rejected as its tokens are, if it has any. -/
theorem parseQuery_rejects_iff {query : String} {r : Rejection} :
    parseQuery query now = .error r ↔
      tokenize query ≠ [] ∧ parseTokens now (tokenize query) = .error r := by
  rw [parseQuery]
  cases ht : tokenize query with
  | nil => simp
  | cons token rest => cases hp : parseTokens now (token :: rest) <;> simp [Except.map, hp]

/-- What is rejected has tokens, but is not grammatical. -/
theorem parseQuery_eq_error_iff {query : String} :
    (∃ r, parseQuery query now = .error r) ↔
      tokenize query ≠ [] ∧ ∀ e, ¬ Grammatical now (tokenize query) e := by
  have hnone : tokenize query = [] ↔ parseQuery query now = .ok none :=
    parseQuery_eq_none_iff.symm
  simp only [ne_eq, hnone]
  simp only [← parseQuery_eq_some_iff]
  rcases parseQuery query now with r | (_ | e) <;> simp

end

/-- **The parser accepts exactly its grammar and builds the grammar's tree**: from a
    query or any other token stream, if there are at most 511 connectives and
    parentheses nest at most 64 deep.  A token stream has at most one tree, whatever
    the limits. -/
theorem accepts_exactly_grammar (now : Instant) :
    (∀ (query : String) (e : Expression), parseQuery query now = .ok (some e) ↔
      (tokenize query).countP Token.joins ≤ 511 ∧
        Derives now .expression 64 (tokenize query) e) ∧
    (∀ (tokens : List Token) (e : Expression), parseTokens now tokens = .ok e ↔
      tokens.countP Token.joins ≤ 511 ∧ Derives now .expression 64 tokens e) ∧
    (∀ (tokens : List Token) (e e' : Expression) (n m : Nat),
      Derives now .expression n tokens e → Derives now .expression m tokens e' → e = e') := by
  have hlimit (tokens : List Token) (e : Expression) : Grammatical now tokens e ↔
      tokens.countP Token.joins ≤ 511 ∧ Derives now .expression 64 tokens e := by
    rw [Grammatical, maxConditions, maxNesting, Nat.lt_succ_iff]
  refine ⟨fun query e => ?_, fun tokens e => ?_, fun tokens e e' n m h h' => h.unique h'⟩
  · rw [parseQuery_eq_some_iff, hlimit]
  · rw [parseTokens_eq_ok_iff, hlimit]

/-- A group with a quoted field and a list, before a condition. -/
theorem accepts_group_with_list :
    parseQuery "(done = true || \"labels\" not in 'x y', z) && priority = high" ⟨0, 0⟩ =
      .ok (some (.and
        (.or (.condition ⟨.done, .eq, .bool true⟩)
          (.condition ⟨.labels, .notIn, .list ["x y", "z"]⟩))
        (.condition ⟨.priority, .eq, .text "high"⟩))) := by
  have ht : tokenize "(done = true || \"labels\" not in 'x y', z) && priority = high" =
      (.bare "(" :: (([.bare "done", .bare "=", .bare "true"] ++ .bare "||" ::
        [.literal "labels", .bare "not", .bare "in", .literal "x y", .bare ",", .bare "z"]) ++
          [.bare ")"])) ++
        .bare "&&" :: [.bare "priority", .bare "=", .bare "high"] := by decide +kernel
  have hdone : DerivesCondition ⟨0, 0⟩ [.bare "done", .bare "=", .bare "true"]
      ⟨.done, .eq, .bool true⟩ := .scalar (o := .eq) rfl rfl (by decide)
  have hlabels : DerivesCondition ⟨0, 0⟩
      [.literal "labels", .bare "not", .bare "in", .literal "x y", .bare ",", .bare "z"]
      ⟨.labels, .notIn, .list ["x y", "z"]⟩ := .list (o := .notIn) rfl rfl (by decide) (by decide)
  have hpriority : DerivesCondition ⟨0, 0⟩ [.bare "priority", .bare "=", .bare "high"]
      ⟨.priority, .eq, .text "high"⟩ := .scalar (o := .eq) rfl rfl (by decide)
  refine ((accepts_exactly_grammar ⟨0, 0⟩).1 _ _).2 ?_
  rw [ht]
  exact ⟨by decide, .term (.and (.operand (.group
    (.or (.operand (.condition hdone)) (.term (.operand (.condition hlabels)))))) hpriority)⟩

end TaskQuery
