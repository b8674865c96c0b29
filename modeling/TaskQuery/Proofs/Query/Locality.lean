/-
  TaskQuery — expressions read alike wherever they stand.

  What the readers find at a place depends on the tokens from there on alone, and not on all of
  these: behind an expression they look at one token more.

  * `Cursor.shift k c`: the place `c`, with `k` tokens more before it; `Parser.shifted k`: what is
    read there;
  * `Parser.Shifts p`: the reader `p` finds the same at a place and at the shifted one;
    `Shifts.bind`: so does one reader after the other; `many_shifts`: so does the loop of a chain;
  * `expression_shifts`: so do the readers of expressions, at every depth;
  * `expression_of_closing`: tokens that were read as an expression are read as that expression
    before the end and before a closing parenthesis;
  * `expression_read_locally`: both, for every token stream.
-/
import TaskQuery.Proofs.Query.Acceptance

namespace TaskQuery

/-! ## Tokens before a place -/

/-- The same place, with `k` tokens more before it. -/
def Cursor.shift (k : Nat) (c : Cursor) : Cursor := ⟨k + c.index, c.rest⟩

section
variable {c : Cursor} {k : Nat}

@[simp] theorem Cursor.shift_rest : (c.shift k).rest = c.rest := rfl

@[simp] theorem Cursor.isAt_shift (token : Token) : (c.shift k).isAt token = c.isAt token := rfl

@[simp] theorem Cursor.skip_shift (n : Nat) : (c.shift k).skip n = (c.skip n).shift k := by
  simp only [skip, shift, Nat.add_assoc]

theorem Cursor.skip_start_append (before tokens : List Token) (i : Nat) :
    (start (before ++ tokens)).skip (before.length + i) =
      ((start tokens).skip i).shift before.length := by
  simp only [skip, start, shift, List.drop_length_add_append, Nat.zero_add]

end

namespace Parser

variable {α β : Type} {now : Instant} {c : Cursor} {k : Nat}

/-- What is read at a place, with `k` tokens more before it. -/
def shifted (k : Nat) : Except Rejection (α × Cursor) → Except Rejection (α × Cursor)
  | .ok (x, d) => .ok (x, d.shift k)
  | .error r => .error ⟨r.cause, k + r.position⟩

/-- The reader finds the same, whatever stands before the place. -/
def Shifts (p : Parser α) : Prop :=
  ∀ k c, p (c.shift k) = shifted k (p c)

@[simp] theorem reject_shift (cause : Rejection.Cause) :
    (c.shift k).reject cause = shifted k (c.reject cause : Except Rejection (α × Cursor)) := rfl

theorem Shifts.bind {p : Parser α} {next : α × Cursor → Except Rejection (β × Cursor)}
    (hp : p.Shifts) (hnext : ∀ x, Shifts fun c => next (x, c)) : Shifts fun c => p c >>= next := by
  intro k c
  show p (c.shift k) >>= next = shifted k (p c >>= next)
  rw [hp]
  cases p c with
  | error r => rfl
  | ok r => exact hnext r.1 k r.2

theorem Shifts.map {p : Parser α} (hp : p.Shifts) (f : α → β) :
    Shifts fun c => (p c).map fun (x, c) => (f x, c) := by
  intro k c
  show (p (c.shift k)).map (fun (x, c) => (f x, c)) = shifted k ((p c).map fun (x, c) => (f x, c))
  rw [hp]
  cases p c <;> rfl

theorem pure_shifts (x : α) : Shifts fun c => .ok (x, c) := by
  intro k c
  rfl

theorem reject_shifts (cause : Rejection.Cause) : Shifts (α := α) fun c => c.reject cause := by
  intro k c
  rfl

/-! ## Conditions -/

theorem field_shifts : field.Shifts := by
  intro k c
  cases hr : c.rest with
  | nil => simp [field, hr]
  | cons token rest => cases hf : Field.ofName? token.text <;> simp [field, hr, hf, shifted]

theorem operator_shifts (f : Field) : (operator f).Shifts := by
  intro k c
  simp only [operator, Cursor.shift_rest, Cursor.skip_shift, reject_shift]
  repeat' split
  all_goals rfl

theorem scalar_shifts (f : Field) (o : Operator) : (scalar now f o).Shifts := by
  intro k c
  simp only [scalar, Cursor.shift_rest, Cursor.skip_shift, reject_shift]
  repeat' split
  all_goals rfl

theorem listItems_shifts (f : Field) (o : Operator) : (listItems f o).Shifts := by
  intro k c
  simp only [listItems, Cursor.shift_rest, Cursor.skip_shift, reject_shift]
  split <;> rfl

theorem condition_shifts : (condition now).Shifts := by
  refine field_shifts.bind fun f => (operator_shifts f).bind fun o => ?_
  by_cases ho : o.takesList
  · simp only [ho, if_true]
    exact (listItems_shifts f o).bind fun items => pure_shifts (⟨f, o, .list items⟩ : Condition)
  · simp only [ho]
    exact (scalar_shifts f o).bind fun value => pure_shifts (⟨f, o, value⟩ : Condition)

/-! ## Chains and groups -/

/-- By induction on the bound of the loop, which no token before it changes. -/
theorem manyUpTo_shifts {item : Parser α} (h : item.Shifts) (connective : Token) (bound : Nat) :
    (manyUpTo connective item bound).Shifts := by
  induction bound with
  | zero => exact pure_shifts []
  | succ bound ih =>
    intro k c
    rw [manyUpTo, manyUpTo, Cursor.isAt_shift, Cursor.skip_shift]
    split
    · exact (h.bind fun first => ih.bind fun others => pure_shifts (first :: others)) k (c.skip 1)
    · rfl

theorem many_shifts {item : Parser α} (h : item.Shifts) (connective : Token) :
    (many connective item).Shifts :=
  fun k c => manyUpTo_shifts h connective c.rest.length k c

variable {group inner : Parser Expression}

theorem operandWith_shifts (h : group.Shifts) : (operandWith now group).Shifts := by
  intro k c
  rw [operandWith, operandWith, Cursor.isAt_shift]
  split
  · exact h k c
  · exact condition_shifts.map Expression.condition k c

theorem termWith_shifts (h : group.Shifts) : (termWith now group).Shifts :=
  (operandWith_shifts h).bind fun _ => (many_shifts condition_shifts _).bind fun _ => pure_shifts _

theorem expressionWith_shifts (h : group.Shifts) : (expressionWith now group).Shifts :=
  (termWith_shifts h).bind fun _ => (many_shifts (termWith_shifts h) _).bind fun _ => pure_shifts _

theorem closed_shifts (h : inner.Shifts) : (closed inner).Shifts := by
  intro k c
  have hclose : ∀ e : Expression, Shifts fun c =>
      if c.isAt (.bare ")") then .ok (e, c.skip 1) else c.reject .unclosedParenthesis := by
    intro e k c
    dsimp only
    rw [Cursor.isAt_shift, Cursor.skip_shift]
    split <;> rfl
  rw [closed, closed, Cursor.skip_shift]
  exact (h.bind hclose) k (c.skip 1)

/-- By induction on how many parentheses may be opened. -/
theorem group_shifts (allowance : Nat) : (Parser.group now allowance).Shifts := by
  induction allowance with
  | zero => exact reject_shifts .tooDeep
  | succ allowance ih => exact closed_shifts (expressionWith_shifts ih)

theorem expression_shifts (allowance : Nat) : (expression now allowance).Shifts :=
  expressionWith_shifts (group_shifts allowance)

/-! ## Tokens behind an expression -/

/-- Before nothing and before a closing parenthesis, lists and expressions end. -/
theorem ends_of_closing {d : Cursor} (h : ∀ token ∈ d.rest.head?, token = .bare ")") :
    d.Halts ∧ d.Stops .expression := by
  have hnot : ∀ other : Token, other ≠ .bare ")" → d.isAt other = false := by
    intro other hother
    rw [Cursor.isAt_eq_false_iff]
    intro hat
    exact hother (h other hat)
  refine ⟨?_, hnot _ (by decide), hnot _ (by decide)⟩
  intro token ht
  rw [h token ht]
  rfl

/-- What an expression was read from is read as that expression wherever it ends in this way. -/
theorem expression_of_closing {allowance : Nat} {e : Expression} {used : List Token}
    {d c' d' : Cursor} (h : expression now allowance c = .ok (e, d)) (hp : c.Passes used d)
    (hp' : c'.Passes used d') (hclosing : ∀ token ∈ d'.rest.head?, token = .bare ")") :
    expression now allowance c' = .ok (e, d') := by
  obtain ⟨used', hu, he, -⟩ := expression_sound allowance _ _ _ h
  have hused : used' = used := List.append_cancel_right (hu.1.symm.trans hp.1)
  subst hused
  obtain ⟨hhalts, hstops⟩ := ends_of_closing hclosing
  have hread : reader now allowance .expression c' = .ok (e, d') :=
    reader_eq_ok_iff.2 ⟨used', hp', he, hhalts.bounds, hstops⟩
  exact hread

/-- **Expressions are read alike wherever they stand.**  With more tokens before the place,
    however many parentheses may still be opened, the reader of expressions gives the same tree
    or the same cause, and only the place after it, or the position of the rejection, is that many
    tokens further on.  An expression that is read up to the end of the tokens is read up to there
    also if tokens follow, the first of which is a closing parenthesis. -/
theorem expression_read_locally (now : Instant) (allowance : Nat) (before tokens : List Token)
    (i : Nat) :
    expression now allowance ((Cursor.start (before ++ tokens)).skip (before.length + i)) =
      shifted before.length (expression now allowance ((Cursor.start tokens).skip i)) ∧
    ∀ e d, expression now allowance ((Cursor.start tokens).skip i) = .ok (e, d) →
      d.index = tokens.length →
      ∀ rest : List Token, (∀ token ∈ rest.head?, token = .bare ")") →
        expression now allowance ((Cursor.start (tokens ++ rest)).skip i) =
          .ok (e, (Cursor.start (tokens ++ rest)).skip d.index) := by
  constructor
  · rw [Cursor.skip_start_append]
    exact expression_shifts allowance before.length _
  · intro e d h hd rest hrest
    obtain ⟨used, hp, -⟩ := expression_sound allowance _ _ _ h
    have hend : i + used.length = tokens.length := by rw [← hd, hp.index_eq]
    have hused : tokens.drop i = used := by
      have hnone : d.rest = [] := by rw [hp.eq_place, hd, Cursor.rest_skip_start, List.drop_length]
      rw [← Cursor.rest_skip_start, hp.1, hnone, List.append_nil]
    have hp' : ((Cursor.start (tokens ++ rest)).skip i).Passes used
        ((Cursor.start (tokens ++ rest)).skip d.index) := by
      constructor
      · rw [Cursor.rest_skip_start, Cursor.rest_skip_start, hd, List.drop_left,
          List.drop_append_of_le_length (by omega), hused]
      · rw [Cursor.index_skip_start, Cursor.index_skip_start, hd, hend]
    refine expression_of_closing h hp hp' ?_
    rw [Cursor.rest_skip_start, hd, List.drop_left]
    exact hrest

/-- The inside of a group that ends in a list, after its parenthesis and before the other. -/
theorem expression_read_locally_in_group :
    let inside : List Token := [.bare "done", .bare "=", .bare "true", .bare "||",
      .bare "labels", .bare "not", .bare "in", .bare "a,b"]
    let more : List Token := [.bare ")", .bare "&&", .bare "project"]
    let e : Expression := .or (.condition ⟨.done, .eq, .bool true⟩)
      (.condition ⟨.labels, .notIn, .list ["a", "b"]⟩)
    expression ⟨0, 0⟩ 63 ((Cursor.start ([.bare "("] ++ inside)).skip 1) = .ok (e, ⟨9, []⟩) ∧
      expression ⟨0, 0⟩ 63 ((Cursor.start (inside ++ more)).skip 0) = .ok (e, ⟨8, more⟩) := by
  intro inside more e
  have hread : expression ⟨0, 0⟩ 63 ((Cursor.start inside).skip 0) = .ok (e, ⟨8, []⟩) := by rfl
  obtain ⟨hbefore, hbehind⟩ := expression_read_locally ⟨0, 0⟩ 63 [.bare "("] inside 0
  constructor
  · rw [hread] at hbefore
    exact hbefore
  · refine hbehind e ⟨8, []⟩ hread rfl more ?_
    intro token ht
    cases ht
    rfl

end Parser

end TaskQuery
