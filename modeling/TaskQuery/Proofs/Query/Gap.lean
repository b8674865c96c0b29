/-
  TaskQuery — phrases with a gap.

  A gap is a place of a phrase where an operand stands, or the condition after
  `&&`.  What stands before a gap settles what can be read there; what stands
  after it does not matter for that.

  * `Gap.Fits now gap tokens e`: the tokens can stand in a gap, with the tree `e`;
  * `Around now phrase n before gap after fill`: the tokens `before` and `after`
    stand around a gap of a phrase, whose tree is `fill e` if `e` fills the gap;
  * `Around.derives`: whatever fits can stand in a gap;
  * `Derives.around`: every token that is not structural stands in a condition that
    fills a gap;
  * `Around.closing`: closing parentheses are enough after a gap;
  * `Around.reader_eq_error`: what is rejected in a gap is rejected in the phrase.
-/
import TaskQuery.Proofs.Query.Acceptance

namespace TaskQuery

/-! ## Gaps -/

/-- What stands in a gap. -/
inductive Gap where
  /-- An operand, with parentheses that nest at most `n` deep. -/
  | operand (n : Nat)
  /-- The condition after `&&`. -/
  | condition

/-- The tokens can stand in a gap, with the tree `e`. -/
def Gap.Fits (now : Instant) : Gap → List Token → Expression → Prop
  | .operand n, tokens, e => Derives now .operand n tokens e
  | .condition, tokens, e => ∃ x, DerivesCondition now tokens x ∧ e = .condition x

/-- The reader of what stands in a gap. -/
def Gap.reader (now : Instant) : Gap → Parser Expression
  | .operand n => Parser.operand now n
  | .condition => fun c => (Parser.condition now c).map fun (x, c) => (.condition x, c)

/-- The tokens `before` and `after` stand around a gap of a phrase; with the tree
    `e` in the gap, the tree of the phrase is `fill e`. -/
inductive Around (now : Instant) : Phrase → (n : Nat) → (before : List Token) → Gap →
    (after : List Token) → (fill : Expression → Expression) → Prop
  /-- The operand itself. -/
  | here {n} : Around now .operand n [] (.operand n) [] id
  | group {n before gap after fill} : Around now .expression n before gap after fill →
      Around now .operand (n + 1) (.bare "(" :: before) gap (after ++ [.bare ")"]) fill
  | operand {n before gap after fill} : Around now .operand n before gap after fill →
      Around now .term n before gap after fill
  /-- The condition after a term and `&&`. -/
  | and {n tokens e} : Derives now .term n tokens e →
      Around now .term n (tokens ++ [.bare "&&"]) .condition [] (.and e)
  /-- A gap of a term that goes on after it. -/
  | andMore {n before gap after fill more x} : Around now .term n before gap after fill →
      DerivesCondition now more x →
      Around now .term n before gap (after ++ .bare "&&" :: more)
        fun e => .and (fill e) (.condition x)
  | term {n before gap after fill} : Around now .term n before gap after fill →
      Around now .expression n before gap after fill
  /-- A gap of what stands after a term and `||`. -/
  | or {n tokens e before gap after fill} : Derives now .term n tokens e →
      Around now .expression n before gap after fill →
      Around now .expression n (tokens ++ .bare "||" :: before) gap after fun e' => .or e (fill e')
  /-- A gap of a term that `||` stands after. -/
  | orMore {n before gap after fill more e'} : Around now .term n before gap after fill →
      Derives now .expression n more e' →
      Around now .expression n before gap (after ++ .bare "||" :: more) fun e => .or (fill e) e'

variable {now : Instant} {phrase : Phrase} {n : Nat} {before after tokens : List Token} {gap : Gap}
  {fill : Expression → Expression} {e : Expression} {c d : Cursor} {r : Rejection}

/-- A condition can stand in every gap. -/
theorem Gap.fits_condition {x : Condition} (h : DerivesCondition now tokens x) :
    gap.Fits now tokens (.condition x) := by
  cases gap with
  | operand n => exact .condition h
  | condition => exact ⟨x, h, rfl⟩

/-- **Whatever fits can stand in a gap.** -/
theorem Around.derives (h : Around now phrase n before gap after fill)
    (hfits : gap.Fits now tokens e) :
    Derives now phrase n (before ++ (tokens ++ after)) (fill e) := by
  induction h with
  | here =>
    rw [List.nil_append, List.append_nil]
    exact hfits
  | group _ ih =>
    have hg := Derives.group (ih hfits)
    simpa only [List.cons_append, List.append_assoc] using hg
  | operand _ ih => exact .operand (ih hfits)
  | and he =>
    obtain ⟨x, hx, rfl⟩ := hfits
    rw [List.append_nil, List.append_assoc]
    exact .and he hx
  | andMore _ hx ih =>
    have ha := Derives.and (ih hfits) hx
    simpa only [List.append_assoc] using ha
  | term _ ih => exact .term (ih hfits)
  | or he _ ih =>
    rw [List.append_assoc, List.cons_append]
    exact .or he (ih hfits)
  | orMore _ he' ih =>
    have ho := Derives.or (ih hfits) he'
    simpa only [List.append_assoc] using ho

/-- A token of two runs of tokens stands in one of them. -/
theorem eq_append_or_eq_append {front back left right : List Token} {token : Token}
    (h : front ++ token :: back = left ++ right) :
    (∃ mid, left = front ++ token :: mid ∧ back = mid ++ right) ∨
      ∃ mid, front = left ++ mid ∧ right = mid ++ token :: back := by
  rcases List.append_eq_append_iff.1 h with ⟨mid, hleft, hright⟩ | ⟨mid, hfront, hright⟩
  · cases mid with
    | nil => exact Or.inr ⟨[], by simp [hleft], hright.symm⟩
    | cons first mid =>
      obtain ⟨rfl, rfl⟩ := List.cons.inj hright
      exact Or.inl ⟨mid, hleft, rfl⟩
  · exact Or.inr ⟨mid, hfront, hright⟩

/-- A token of two runs and another token between them stands in one of the runs. -/
theorem eq_append_or_eq_append_cons {front back left right : List Token} {token joint : Token}
    (h : front ++ token :: back = left ++ joint :: right) (hne : token ≠ joint) :
    (∃ mid, left = front ++ token :: mid ∧ back = mid ++ joint :: right) ∨
      ∃ mid, front = left ++ joint :: mid ∧ right = mid ++ token :: back := by
  refine (eq_append_or_eq_append h).imp id ?_
  rintro ⟨mid, rfl, hright⟩
  cases mid with
  | nil => exact absurd (List.cons.inj hright).1.symm hne
  | cons first mid =>
    obtain ⟨rfl, rfl⟩ := List.cons.inj hright
    exact ⟨mid, rfl, rfl⟩

/-- **Every token that is not structural stands in a condition that fills a gap.** -/
theorem Derives.around {front back : List Token} {token : Token}
    (h : Derives now phrase n (front ++ token :: back) e) (ht : token ∉ Token.structural) :
    ∃ before gap after fill used more x, Around now phrase n before gap after fill ∧
      DerivesCondition now (used ++ token :: more) x ∧ front = before ++ used ∧
      back = more ++ after ∧ e = fill (.condition x) := by
  have hne {joint : Token} (hj : joint ∈ Token.structural) : token ≠ joint := by
    rintro rfl
    exact ht hj
  generalize htokens : front ++ token :: back = tokens at h
  induction h generalizing front back with
  | condition hx =>
    subst htokens
    exact ⟨[], _, [], id, front, back, _, .here, hx, rfl, (List.append_nil back).symm, rfl⟩
  | @group n tokens e _ ih =>
    -- neither parenthesis is the token
    have hgroup : front ++ token :: back = [] ++ .bare "(" :: (tokens ++ [.bare ")"]) := htokens
    rcases eq_append_or_eq_append_cons hgroup (hne (by decide)) with
      ⟨mid, hnil, -⟩ | ⟨inner, rfl, hinner⟩
    · simp at hnil
    rcases eq_append_or_eq_append_cons hinner.symm (hne (by decide)) with
      ⟨mid, hmid, rfl⟩ | ⟨mid, -, hnil⟩
    · obtain ⟨before, gap, after, fill, used, more, x, haround, hx, rfl, rfl, rfl⟩ := ih hmid.symm
      exact ⟨_, gap, _, fill, used, more, x, .group haround, hx, rfl, List.append_assoc .., rfl⟩
    · simp at hnil
  | operand _ ih =>
    obtain ⟨before, gap, after, fill, used, more, x, haround, h⟩ := ih htokens
    exact ⟨before, gap, after, fill, used, more, x, .operand haround, h⟩
  | term _ ih =>
    obtain ⟨before, gap, after, fill, used, more, x, haround, h⟩ := ih htokens
    exact ⟨before, gap, after, fill, used, more, x, .term haround, h⟩
  | and he hx ih =>
    rcases eq_append_or_eq_append_cons htokens (hne (by decide)) with
      ⟨mid, hmid, rfl⟩ | ⟨mid, rfl, rfl⟩
    · obtain ⟨before, gap, after, fill, used, more, x, haround, hx', rfl, rfl, rfl⟩ := ih hmid.symm
      exact ⟨before, gap, _, _, used, more, x, .andMore haround hx, hx', rfl,
        List.append_assoc .., rfl⟩
    · exact ⟨_, _, [], _, mid, back, _, .and he, hx, by simp, (List.append_nil back).symm, rfl⟩
  | or he he' ih ih' =>
    rcases eq_append_or_eq_append_cons htokens (hne (by decide)) with
      ⟨mid, hmid, rfl⟩ | ⟨mid, rfl, hmid⟩
    · obtain ⟨before, gap, after, fill, used, more, x, haround, hx, rfl, rfl, rfl⟩ := ih hmid.symm
      exact ⟨before, gap, _, _, used, more, x, .orMore haround he', hx, rfl,
        List.append_assoc .., rfl⟩
    · obtain ⟨before, gap, after, fill, used, more, x, haround, hx, rfl, rfl, rfl⟩ := ih' hmid.symm
      exact ⟨_, gap, after, _, used, more, x, .or he haround, hx, by simp, rfl, rfl⟩

/-- **Closing parentheses are enough after a gap.** -/
theorem Around.closing (h : Around now phrase n before gap after fill) :
    ∃ closing fill', Around now phrase n before gap closing fill' ∧
      ∀ token ∈ closing, token = .bare ")" := by
  induction h with
  | here => exact ⟨[], id, .here, fun token ht => by cases ht⟩
  | group _ ih =>
    obtain ⟨closing, fill', h', hclosing⟩ := ih
    refine ⟨_, fill', .group h', fun token ht => ?_⟩
    rcases List.mem_append.1 ht with ht | ht
    · exact hclosing token ht
    · exact List.mem_singleton.1 ht
  | operand _ ih =>
    obtain ⟨closing, fill', h', hclosing⟩ := ih
    exact ⟨closing, fill', .operand h', hclosing⟩
  | and he => exact ⟨[], _, .and he, fun token ht => by cases ht⟩
  | andMore _ _ ih => exact ih
  | term _ ih | orMore _ _ ih =>
    obtain ⟨closing, fill', h', hclosing⟩ := ih
    exact ⟨closing, fill', .term h', hclosing⟩
  | or he _ ih =>
    obtain ⟨closing, fill', h', hclosing⟩ := ih
    exact ⟨closing, _, .or he h', hclosing⟩

/-! ## What is rejected in a gap -/

/-- A condition that is rejected is rejected in every gap, unless a group may stand there. -/
theorem Gap.reader_eq_error (h : Parser.condition now c = .error r)
    (hat : c.isAt (.bare "(") = false) : gap.reader now c = .error r := by
  cases gap with
  | operand n =>
    show Parser.operandWith now (Parser.group now n) c = .error r
    rw [Parser.operandWith, hat, h]
    rfl
  | condition =>
    show (Parser.condition now c).map _ = .error r
    rw [h]
    rfl

/-- **What is rejected in a gap is rejected in the phrase**, for the same reason: by
    induction on what stands around the gap. -/
theorem Around.reader_eq_error (h : Around now phrase n before gap after fill)
    (hp : c.Passes before d) (hr : gap.reader now d = .error r) :
    Parser.reader now n phrase c = .error r := by
  induction h generalizing c with
  | here =>
    rw [Cursor.passes_nil] at hp
    exact hp ▸ hr
  | @group n before gap after fill _ ih =>
    obtain ⟨c₁, h₁, h₂⟩ := hp.between_one
    have hinner : Parser.expression now n c₁ = .error r := ih h₂ hr
    show Parser.operandWith now (Parser.group now (n + 1)) c = .error r
    rw [Parser.operandWith, if_pos (Cursor.isAt_of_passes hp), Parser.group, Parser.closed,
      ← h₁.eq_skip_one]
    exact Parser.bind_eq_error hinner
  | operand _ ih => exact Parser.bind_eq_error (ih hp hr)
  | @and n tokens e he =>
    obtain ⟨c₁, h₁, h₂⟩ := hp.between
    have hcondition : Parser.condition now d = .error r := by
      cases hx : Parser.condition now d with
      | error r' => simpa [Gap.reader, hx, Except.map] using hr
      | ok p => simp [Gap.reader, hx, Except.map] at hr
    -- the term before `&&` is read, and then the condition rejected
    have hterm : Parser.term now n c = Parser.continueTerm now e c₁ :=
      Parser.continues he h₁ (h₂.halts (by decide)).bounds
    show Parser.term now n c = .error r
    rw [hterm, Parser.continueTerm_eq, if_pos (Cursor.isAt_of_passes h₂), ← h₂.eq_skip_one]
    exact Parser.bind_eq_error hcondition
  | andMore _ _ ih => exact ih hp hr
  | term _ ih | orMore _ _ ih => exact Parser.bind_eq_error (ih hp hr)
  | @or n tokens e before gap after fill he _ ih =>
    obtain ⟨c₁, h₁, h₂⟩ := hp.between
    obtain ⟨c₂, h₂, h₃⟩ := h₂.between_one
    have hterm : Parser.term now n c = .ok (e, c₁) :=
      Parser.reader_eq_ok_iff.2
        ⟨tokens, h₁, he, (h₂.halts (by decide)).bounds, h₂.isAt_eq_false (by decide)⟩
    show Parser.expression now n c = .error r
    rw [Parser.expression, Parser.expressionWith_eq, ← Parser.term, hterm]
    show Parser.continueExpression now (Parser.group now n) e c₁ = .error r
    rw [Parser.continueExpression_eq (Parser.term_sound n).advances,
      if_pos (Cursor.isAt_of_passes h₂), ← h₂.eq_skip_one]
    exact Parser.bind_eq_error (ih h₃ hr)

end TaskQuery
