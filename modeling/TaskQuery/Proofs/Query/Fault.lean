/-
  TaskQuery — why a token stream is rejected.

  A fault has a place: the tokens before it begin a query, and what stands there
  does not go on it.

  * `Misfit used d cause`: the tokens `used` begin a condition, which does not go on
    at the place `d`; `Parser.condition_eq_error_iff`: the reader of conditions finds
    exactly these faults;
  * `Gap.Blocked now gap used d cause`: the tokens `used` begin what stands in a gap,
    which does not go on at `d`;
  * `Stuck now phrase n c r`: the phrase that begins at `c` has a gap that is blocked;
    `Parser.reader_eq_error_iff`: these are the rejections of the readers;
  * `Fault now used d cause`: the tokens `used` begin a query, which does not go on at
    `d`; `parseTokens_eq_error_iff`: these are the rejections of a token stream, besides
    too many conditions.
-/
import TaskQuery.Proofs.Query.Gap

namespace TaskQuery

/-! ## Conditions -/

/-- The tokens `used` begin a condition, and what stands at the place `d` after them
    does not go on it. -/
inductive Misfit : (used : List Token) → (d : Cursor) → Rejection.Cause → Prop
  | unexpectedEnd {d} : d.rest = [] → Misfit [] d .unexpectedEnd
  | unknownField {d token rest} : d.rest = token :: rest → (∀ f : Field, token.text ≠ f.name) →
      Misfit [] d (.unknownField token.text (suggestField token.text))
  | missingOperator {d name f} : name.text = Field.name f → d.rest = [] →
      Misfit [name] d (.missingOperator f)
  | unknownOperator {d name f token rest} : name.text = Field.name f → d.rest = token :: rest →
      (∀ o : Operator, ¬ o.tokens <+: d.rest) → Misfit [name] d (.unknownOperator token.text)
  | missingValue {d name f o} : name.text = Field.name f → Operator.takesList o = false →
      (∀ token ∈ d.rest.head?, token ∈ Token.structural) →
      Misfit (name :: o.tokens) d (.missingValue f o)
  | missingItems {d name f o} : name.text = Field.name f → Operator.takesList o = true →
      (d.rest.takeWhile fun token => !Parser.endsList token).flatMap Parser.itemsOf = [] →
      Misfit (name :: o.tokens) d (.missingValue f o)

namespace Parser

variable {now : Instant} {f : Field} {o : Operator} {c d : Cursor} {r : Rejection}
  {cause : Rejection.Cause} {used : List Token}

theorem reject_eq_error_iff :
    (c.reject cause : Except Rejection α) = .error r ↔ r.cause = cause ∧ r.position = c.index := by
  cases r
  simp only [Cursor.reject, Except.error.injEq, Rejection.mk.injEq, eq_comm]

/-- What the reader of fields finds wrong. -/
theorem misfit_of_field (h : field c = .error r) : Misfit [] c r.cause ∧ r.position = c.index := by
  cases hr : c.rest with
  | nil =>
    simp only [field, hr, reject_eq_error_iff] at h
    exact ⟨h.1 ▸ .unexpectedEnd hr, h.2⟩
  | cons token rest =>
    simp only [field, hr] at h
    cases hf : Field.ofName? token.text with
    | some f => simp [hf] at h
    | none =>
      simp only [hf, reject_eq_error_iff] at h
      refine ⟨h.1 ▸ .unknownField hr fun f hname => ?_, h.2⟩
      rw [hname, Field.ofName?_name] at hf
      cases hf

/-- Where no operator stands, the reader of operators rejects what does. -/
theorem operator_eq_reject {token : Token} {rest : List Token} (hr : c.rest = token :: rest)
    (hnone : ∀ o : Operator, ¬ o.tokens <+: c.rest) :
    operator f c = c.reject (.unknownOperator token.text) := by
  have hread : ∀ p, operator f c ≠ .ok p :=
    fun p hp => hnone p.1 ⟨_, (operator_iff.1 hp).1.symm⟩
  simp only [operator, hr] at hread ⊢
  split
  · rename_i hnot
    exact absurd (if_pos hnot) (hread _)
  · rename_i hnot
    rw [if_neg hnot] at hread
    split
    · rename_i o ho
      simp only [ho] at hread
      split
      · rfl
      · rename_i hquoted
        exact absurd (if_neg hquoted) (hread _)
    · rfl

/-- What the reader of operators finds wrong. -/
theorem misfit_of_operator {name : Token} (hname : name.text = f.name)
    (h : operator f c = .error r) : Misfit [name] c r.cause ∧ r.position = c.index := by
  cases hr : c.rest with
  | nil =>
    simp only [operator, hr, reject_eq_error_iff] at h
    exact ⟨h.1 ▸ .missingOperator hname hr, h.2⟩
  | cons token rest =>
    have hnone : ∀ o : Operator, ¬ o.tokens <+: c.rest := by
      rintro o ⟨more, hmore⟩
      rw [operator_iff.2 (Cursor.passes_skip hmore.symm)] at h
      cases h
    rw [operator_eq_reject hr hnone, reject_eq_error_iff] at h
    exact ⟨h.1 ▸ .unknownOperator hname hr hnone, h.2⟩

/-- What the reader of single values finds wrong. -/
theorem scalar_eq_error_iff : scalar now f o c = .error r ↔
    (∀ token ∈ c.rest.head?, token ∈ Token.structural) ∧
      r.cause = .missingValue f o ∧ r.position = c.index := by
  cases hr : c.rest with
  | nil => simp [scalar, hr, reject_eq_error_iff]
  | cons token rest =>
    by_cases ht : token ∈ Token.structural <;> simp [scalar, hr, ht, reject_eq_error_iff]

/-- What the reader of lists finds wrong. -/
theorem listItems_eq_error_iff : listItems f o c = .error r ↔
    (c.rest.takeWhile fun token => !endsList token).flatMap itemsOf = [] ∧
      r.cause = .missingValue f o ∧ r.position = c.index := by
  simp only [listItems]
  split
  · rename_i hitems
    simp only [reject_eq_error_iff, hitems, true_and]
  · rename_i hitems
    simp only [hitems, reduceCtorEq, false_and]

/-- After the field and the operator. -/
theorem condition_eq {name : Token} (hname : name.text = f.name)
    (hp : c.Passes (name :: o.tokens) d) :
    condition now c =
      if o.takesList then listItems f o d >>= fun (items, c) => .ok (⟨f, o, .list items⟩, c)
      else scalar now f o d >>= fun (value, c) => .ok (⟨f, o, value⟩, c) := by
  obtain ⟨c₁, h₁, h₂⟩ := hp.between_one
  rw [condition, field_iff.2 ⟨name, hname, h₁⟩]
  show (operator f c₁ >>= _) = _
  rw [operator_iff.2 h₂]
  rfl

theorem misfit_of_condition (h : condition now c = .error r) :
    ∃ used d, c.Passes used d ∧ Misfit used d r.cause ∧ r.position = d.index := by
  -- the field, the operator or the value is where the reader stops
  rcases bind_eq_error_iff.1 h with hfield | ⟨⟨f, c₁⟩, hf, h⟩
  · exact ⟨[], c, Cursor.passes_nil.2 rfl, misfit_of_field hfield⟩
  obtain ⟨name, hname, h₁⟩ := field_iff.1 hf
  rcases bind_eq_error_iff.1 h with hoperator | ⟨⟨o, c₂⟩, ho, h⟩
  · exact ⟨[name], c₁, h₁, misfit_of_operator hname hoperator⟩
  have h₂ := operator_iff.1 ho
  refine ⟨name :: o.tokens, c₂, h₁.trans h₂, ?_⟩
  dsimp only at h
  split at h
  · rename_i hlist
    rcases bind_eq_error_iff.1 h with hitems | ⟨p, -, hp⟩
    · obtain ⟨hnone, hcause, hposition⟩ := listItems_eq_error_iff.1 hitems
      exact ⟨hcause ▸ .missingItems hname hlist hnone, hposition⟩
    · cases hp
  · rename_i hlist
    rcases bind_eq_error_iff.1 h with hscalar | ⟨p, -, hp⟩
    · obtain ⟨hnone, hcause, hposition⟩ := scalar_eq_error_iff.1 hscalar
      exact ⟨hcause ▸ .missingValue hname (Bool.eq_false_iff.2 hlist) hnone, hposition⟩
    · cases hp

/-- What does not go on a condition is rejected where it stands. -/
theorem condition_of_misfit (hp : c.Passes used d) (h : Misfit used d cause) :
    condition now c = .error ⟨cause, d.index⟩ := by
  have hoperator {name : Token} {f : Field} (hname : name.text = f.name)
      (hp : c.Passes [name] d) {r : Rejection} (hr : operator f d = .error r) :
      condition now c = .error r := by
    rw [condition, field_iff.2 ⟨name, hname, hp⟩]
    show (operator f d >>= _) = _
    exact bind_eq_error hr
  cases h with
  | unexpectedEnd hr =>
    rw [Cursor.passes_nil] at hp
    subst hp
    refine bind_eq_error ?_
    rw [field, hr]
    rfl
  | @unknownField _ token rest hr hname =>
    rw [Cursor.passes_nil] at hp
    subst hp
    have hnone : Field.ofName? token.text = none :=
      Option.eq_none_iff_forall_ne_some.2 fun f hf => hname f (Field.ofName?_eq_some_iff.1 hf)
    refine bind_eq_error ?_
    simp only [field, hr, hnone]
    rfl
  | missingOperator hname hr =>
    refine hoperator hname hp ?_
    rw [operator, hr]
    rfl
  | unknownOperator hname hr hnone => exact hoperator hname hp (operator_eq_reject hr hnone)
  | missingValue hname ho hnone =>
    rw [condition_eq hname hp, ho]
    exact bind_eq_error (scalar_eq_error_iff.2 ⟨hnone, rfl, rfl⟩)
  | missingItems hname ho hnone =>
    rw [condition_eq hname hp, ho]
    exact bind_eq_error (listItems_eq_error_iff.2 ⟨hnone, rfl, rfl⟩)

/-- **Conditions.**  The reader of conditions rejects exactly what does not go on a
    condition. -/
theorem condition_eq_error_iff : condition now c = .error r ↔
    ∃ used d, c.Passes used d ∧ Misfit used d r.cause ∧ r.position = d.index := by
  refine ⟨misfit_of_condition, ?_⟩
  rintro ⟨used, d, hp, h, hposition⟩
  rw [condition_of_misfit hp h, ← hposition]

end Parser

/-! ## Gaps -/

/-- The tokens `used` begin what stands in a gap, and what stands at the place `d`
    after them does not go on it. -/
inductive Gap.Blocked (now : Instant) : Gap → (used : List Token) → (d : Cursor) →
    Rejection.Cause → Prop
  | condition {used d cause} : Misfit used d cause → Blocked now .condition used d cause
  | operand {n used d cause} : Misfit used d cause →
      (used = [] → d.isAt (.bare "(") = false) → Blocked now (.operand n) used d cause
  | tooDeep {d} : d.isAt (.bare "(") = true → Blocked now (.operand 0) [] d .tooDeep
  | unclosed {n tokens d e} : Derives now .expression n tokens e → d.Bounds tokens e →
      d.Stops .expression → d.isAt (.bare ")") = false →
      Blocked now (.operand (n + 1)) (.bare "(" :: tokens) d .unclosedParenthesis

variable {now : Instant} {phrase : Phrase} {n : Nat} {before tokens used : List Token} {gap : Gap}
  {e : Expression} {c d : Cursor} {r : Rejection} {cause : Rejection.Cause}

theorem Misfit.name_eq {first : Token} (h : Misfit (first :: used) d cause) :
    ∃ f : Field, first.text = f.name := by
  generalize htokens : first :: used = tokens at h
  cases h with
  | unexpectedEnd | unknownField => cases htokens
  | missingOperator hname | unknownOperator hname | missingValue hname | missingItems hname =>
    cases htokens
    exact ⟨_, hname⟩

/-- What blocks a gap is rejected where it stands. -/
theorem Gap.Blocked.reader_eq_error (h : gap.Blocked now used d cause) (hp : c.Passes used d) :
    gap.reader now c = .error ⟨cause, d.index⟩ := by
  have hmisfit (hm : Misfit used d cause) (hat : used = [] → d.isAt (.bare "(") = false) :
      gap.reader now c = .error ⟨cause, d.index⟩ := by
    refine Gap.reader_eq_error (Parser.condition_of_misfit hp hm) ?_
    cases used with
    | nil =>
      rw [← Cursor.passes_nil.1 hp]
      exact hat rfl
    | cons first used =>
      obtain ⟨f, hf⟩ := hm.name_eq
      refine hp.isAt_eq_false ?_
      rintro rfl
      exact Field.not_structural hf (by decide)
  cases h with
  | condition hm =>
    show (Parser.condition now c).map _ = _
    rw [Parser.condition_of_misfit hp hm]
    rfl
  | operand hm hat => exact hmisfit hm hat
  | tooDeep hat =>
    rw [Cursor.passes_nil] at hp
    subst hp
    show Parser.operandWith now (Parser.group now 0) d = _
    rw [Parser.operandWith, if_pos hat]
    rfl
  | @unclosed n tokens _ e he hbounds hstops hat =>
    obtain ⟨c₁, h₁, h₂⟩ := hp.between_one
    have hinner : Parser.expression now n c₁ = .ok (e, d) :=
      Parser.reader_eq_ok_iff.2 ⟨tokens, h₂, he, hbounds, hstops⟩
    show Parser.operandWith now (Parser.group now (n + 1)) c = _
    rw [Parser.operandWith, if_pos (Cursor.isAt_of_passes hp), Parser.group, Parser.closed,
      ← h₁.eq_skip_one, ← Parser.expression, hinner]
    show (if d.isAt (.bare ")") then _ else _) = _
    rw [hat]
    rfl

/-! ## Phrases -/

/-- The phrase that begins at `c` has a gap that is blocked. -/
def Stuck (now : Instant) (phrase : Phrase) (n : Nat) (c : Cursor) (r : Rejection) : Prop :=
  ∃ before gap after fill used d, Around now phrase n before gap after fill ∧
    c.Passes (before ++ used) d ∧ gap.Blocked now used d r.cause ∧ r.position = d.index

/-- A gap that is blocked and stands in a phrase that begins at `c`. -/
theorem Stuck.step {phrase' : Phrase} {m : Nat} (h : Stuck now phrase n d r)
    (hp : c.Passes tokens d)
    (haround : ∀ {before gap after fill}, Around now phrase n before gap after fill →
      ∃ after' fill', Around now phrase' m (tokens ++ before) gap after' fill') :
    Stuck now phrase' m c r := by
  obtain ⟨before, gap, after, fill, used, d', h, hp', hblocked, hposition⟩ := h
  obtain ⟨after', fill', h'⟩ := haround h
  refine ⟨_, gap, after', fill', used, d', h', ?_, hblocked, hposition⟩
  rw [List.append_assoc]
  exact hp.trans hp'

namespace Parser

variable {group : Parser Expression}

theorem operandWith_stuck
    (hgroup : ∀ c r, c.isAt (.bare "(") → group c = .error r → Stuck now .operand n c r)
    (h : operandWith now group c = .error r) : Stuck now .operand n c r := by
  unfold operandWith at h
  split at h
  · rename_i hat
    exact hgroup c r hat h
  · rename_i hat
    cases hx : condition now c with
    | ok p => simp [hx, Except.map] at h
    | error r' =>
      simp only [hx, Except.map, Except.error.injEq] at h
      subst h
      obtain ⟨used, d, hp, hmisfit, hposition⟩ := condition_eq_error_iff.1 hx
      refine ⟨[], _, [], id, used, d, .here, hp, .operand hmisfit ?_, hposition⟩
      rintro rfl
      rw [Cursor.passes_nil.1 hp]
      exact Bool.eq_false_iff.2 hat

theorem closed_stuck {inner : Parser Expression} (hat : c.isAt (.bare "("))
    (hsound : Sound now .expression n inner)
    (hstuck : ∀ c r, inner c = .error r → Stuck now .expression n c r)
    (h : closed inner c = .error r) : Stuck now .operand (n + 1) c r := by
  have hopen := Cursor.isAt_iff.1 hat
  rcases bind_eq_error_iff.1 h with hinner | ⟨⟨e, d⟩, he, h⟩
  · exact (hstuck _ _ hinner).step hopen fun h => ⟨_, _, .group h⟩
  · obtain ⟨used, hp, hd, hbounds, hstops⟩ := hsound _ _ _ he
    dsimp only at h
    split at h
    · cases h
    · rename_i hclose
      obtain ⟨hcause, hposition⟩ := reject_eq_error_iff.1 h
      refine ⟨[], _, [], id, _, d, .here, hopen.trans hp, ?_, hposition⟩
      rw [hcause]
      exact .unclosed hd hbounds hstops (Bool.eq_false_iff.2 hclose)

/-- A term that does not go on after `&&`: by induction on the tokens that are left. -/
theorem continueTerm_stuck (h : continueTerm now e d = .error r)
    (he : Derives now .term n tokens e) (hp : c.Passes tokens d) : Stuck now .term n c r := by
  induction hk : d.rest.length using Nat.strongRecOn generalizing d e tokens with
  | _ k ih =>
    rw [continueTerm_eq] at h
    split at h
    · rename_i hat
      have hand := Cursor.isAt_iff.1 hat
      rcases bind_eq_error_iff.1 h with hx | ⟨⟨x, d'⟩, hx, h⟩
      · obtain ⟨used, d', hp', hmisfit, hposition⟩ := condition_eq_error_iff.1 hx
        exact ⟨_, _, [], _, used, d', .and he, (hp.trans hand).trans hp', .condition hmisfit,
          hposition⟩
      · obtain ⟨more, hmore, hp', -⟩ := condition_iff.1 hx
        have hp' := hand.trans hp'
        exact ih _ (hk ▸ hp'.length_lt (List.cons_ne_nil _ _)) h (.and he hmore) (hp.trans hp') rfl
    · cases h

theorem termWith_stuck (hsound : Sound now .operand n (operandWith now group))
    (hstuck : ∀ c r, operandWith now group c = .error r → Stuck now .operand n c r)
    (h : termWith now group c = .error r) : Stuck now .term n c r := by
  rw [termWith_eq] at h
  rcases bind_eq_error_iff.1 h with hoperand | ⟨⟨e, d⟩, he, h⟩
  · exact (hstuck _ _ hoperand).step (Cursor.passes_nil.2 rfl) fun h => ⟨_, _, .operand h⟩
  · obtain ⟨used, hp, hd, -⟩ := hsound _ _ _ he
    exact continueTerm_stuck h (.operand hd) hp

/-- An expression that does not go on after `||`: by induction on the tokens that are
    left. -/
theorem expressionWith_stuck (hsound : Sound now .term n (termWith now group))
    (hstuck : ∀ c r, termWith now group c = .error r → Stuck now .term n c r)
    (h : expressionWith now group c = .error r) : Stuck now .expression n c r := by
  induction hk : c.rest.length using Nat.strongRecOn generalizing c with
  | _ k ih =>
    rw [expressionWith_eq] at h
    rcases bind_eq_error_iff.1 h with hterm | ⟨⟨e, d⟩, he, h⟩
    · exact (hstuck _ _ hterm).step (Cursor.passes_nil.2 rfl) fun h => ⟨_, _, .term h⟩
    obtain ⟨used, hp, hd, -⟩ := hsound _ _ _ he
    dsimp only at h
    rw [continueExpression_eq hsound.advances] at h
    split at h
    · rename_i hat
      -- after `||` stands an expression again, with fewer tokens left
      have hp := hp.trans (Cursor.isAt_iff.1 hat)
      rcases bind_eq_error_iff.1 h with hmore | ⟨p, -, h⟩
      · refine (ih _ (hk ▸ hp.length_lt (by simp)) hmore rfl).step hp fun h => ?_
        rw [List.append_assoc]
        exact ⟨_, _, .or hd h⟩
      · cases h
    · cases h

/-- By induction on how many parentheses may be opened. -/
theorem operand_stuck (n : Nat) : ∀ c r, operand now n c = .error r → Stuck now .operand n c r := by
  induction n with
  | zero =>
    intro c r
    refine operandWith_stuck fun c r hat h => ?_
    obtain ⟨hcause, hposition⟩ := reject_eq_error_iff.1 h
    refine ⟨[], _, [], id, [], c, .here, Cursor.passes_nil.2 rfl, ?_, hposition⟩
    rw [hcause]
    exact .tooDeep hat
  | succ n ih =>
    have hterm : ∀ c r, term now n c = .error r → Stuck now .term n c r :=
      fun c r => termWith_stuck (operand_sound n) ih
    exact fun c r => operandWith_stuck fun c r hat =>
      closed_stuck hat (expression_sound n) fun c r => expressionWith_stuck (term_sound n) hterm

/-- **The readers reject a phrase exactly if one of its gaps is blocked.** -/
theorem reader_eq_error_iff : reader now n phrase c = .error r ↔ Stuck now phrase n c r := by
  constructor
  · intro h
    have hterm : ∀ c r, term now n c = .error r → Stuck now .term n c r :=
      fun c r => termWith_stuck (operand_sound n) (operand_stuck n)
    cases phrase with
    | operand => exact operand_stuck n c r h
    | term => exact hterm c r h
    | expression => exact expressionWith_stuck (term_sound n) hterm h
  · rintro ⟨before, gap, after, fill, used, d, haround, hp, hblocked, hposition⟩
    obtain ⟨c₁, h₁, h₂⟩ := hp.between
    rw [haround.reader_eq_error h₁ (hblocked.reader_eq_error h₂), ← hposition]

end Parser

/-! ## Token streams -/

/-- The tokens `used` begin a query, and what stands at the place `d` after them does
    not go on it. -/
inductive Fault (now : Instant) : (used : List Token) → (d : Cursor) → Rejection.Cause → Prop
  | blocked {before gap after fill used d cause} :
      Around now .expression maxNesting before gap after fill → gap.Blocked now used d cause →
      Fault now (before ++ used) d cause
  | leftOver {tokens d e token rest} : Derives now .expression maxNesting tokens e →
      d.Bounds tokens e → d.Stops .expression → d.rest = token :: rest →
      Fault now tokens d (.unexpectedToken token.text)

/-- A gap that is blocked at once. -/
theorem Around.fault {after : List Token} {fill : Expression → Expression}
    (h : Around now .expression maxNesting before gap after fill)
    (hblocked : gap.Blocked now [] d cause) : Fault now before d cause := by
  have hfault := Fault.blocked h hblocked
  rwa [List.append_nil] at hfault

/-- **Why a token stream is rejected**: there are too many conditions, or else a fault. -/
theorem parseTokens_eq_error_iff : parseTokens now tokens = .error r ↔
    (r.cause = .tooManyConditions ∧
      (connectiveIndexes 0 tokens)[maxConditions - 1]? = some r.position) ∨
    (tokens.countP Token.joins < maxConditions ∧
      ∃ used d, (Cursor.start tokens).Passes used d ∧ Fault now used d r.cause ∧
        r.position = d.index) := by
  rw [parseTokens, ← connectiveIndexes_getElem?_eq_none_iff]
  cases hi : (connectiveIndexes 0 tokens)[maxConditions - 1]? with
  | some position =>
    cases r
    simp [eq_comm]
  | none =>
    simp only [reduceCtorEq, and_false, true_and, false_or, Parser.bind_eq_error_iff]
    constructor
    · rintro (h | ⟨⟨e, d⟩, he, h⟩)
      · have hstuck : Stuck now .expression maxNesting (.start tokens) r :=
          Parser.reader_eq_error_iff.1 h
        obtain ⟨before, gap, after, fill, used, d, haround, hp, hblocked, hposition⟩ := hstuck
        exact ⟨_, d, hp, .blocked haround hblocked, hposition⟩
      · obtain ⟨used, hp, hd, hbounds, hstops⟩ := Parser.expression_sound _ _ _ _ he
        cases hr : d.rest with
        | nil => simp [hr] at h
        | cons token rest =>
          simp only [hr, Parser.reject_eq_error_iff] at h
          exact ⟨used, d, hp, h.1 ▸ .leftOver hd hbounds hstops hr, h.2⟩
    · rintro ⟨used, d, hp, hfault, hposition⟩
      generalize hcause : r.cause = cause at hfault
      cases hfault with
      | blocked haround hblocked =>
        have hstuck : Stuck now .expression maxNesting (.start tokens) r :=
          ⟨_, _, _, _, _, d, haround, hp, hcause ▸ hblocked, hposition⟩
        exact Or.inl (Parser.reader_eq_error_iff.2 hstuck)
      | leftOver hd hbounds hstops hr =>
        refine Or.inr ⟨(_, d), Parser.reader_eq_ok_iff.2 ⟨used, hp, hd, hbounds, hstops⟩, ?_⟩
        simp only [hr, Parser.reject_eq_error_iff]
        exact ⟨hcause, hposition⟩

/-- A token stream within the limit on conditions is rejected at a fault. -/
theorem Fault.parseTokens_eq_error {rest : List Token} (h : Fault now used ⟨used.length, rest⟩ cause)
    (hcount : (used ++ rest).countP Token.joins < maxConditions) :
    parseTokens now (used ++ rest) = .error ⟨cause, used.length⟩ :=
  parseTokens_eq_error_iff.2 (Or.inr
    ⟨hcount, used, ⟨used.length, rest⟩, Cursor.passes_start_iff.2 ⟨rfl, rfl⟩, h, rfl⟩)

end TaskQuery
