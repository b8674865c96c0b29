/-
  TaskQuery — chains of `||` as a recursion.

  By the grammar an expression is a term, or a term, `||` and an expression.  The reader of
  expressions does not call itself there: it collects the terms of the chain in a loop, and
  joins them when the chain is over.

  * `Parser.Advances.many_le`: a chain never ends before its start; `Advances.termWith` and
    its like: the readers take at least one token if those of groups do;
  * `Parser.recursive term`: the rule of the grammar as a reader, given a reader of terms;
    `Parser.expressionWith_eq_recursive`: the loop reads the same;
  * `Parser.recursiveExpression`: the reader by the grammar, inside of groups too;
  * `Parser.expression_eq_recursion`: at every place and depth both give the same tree, the
    same place after it and the same rejection.
-/
import TaskQuery.Proofs.Query.Reading

namespace TaskQuery.Parser

variable {α : Type} {now : Instant} {c d : Cursor}

/-! ## Readers that advance -/

/-- A chain never ends before its start: by induction on the bound of the loop. -/
theorem Advances.manyUpTo_le {item : Parser α} (h : item.Advances) {connective : Token}
    {bound : Nat} {xs : List α} (hread : manyUpTo connective item bound c = .ok (xs, d)) :
    d.rest.length ≤ c.rest.length := by
  induction bound generalizing c xs with
  | zero =>
    cases hread
    exact Nat.le_refl _
  | succ bound ih =>
    rw [manyUpTo] at hread
    split at hread
    · obtain ⟨⟨x, c₁⟩, hx, hread⟩ := bind_eq_ok.1 hread
      obtain ⟨⟨others, c₂⟩, hothers, heq⟩ := bind_eq_ok.1 hread
      cases heq
      have hfirst := h _ _ _ hx
      simp only [Cursor.skip, List.length_drop] at hfirst
      have hrest := ih hothers
      omega
    · cases hread
      exact Nat.le_refl _

theorem Advances.many_le {item : Parser α} (h : item.Advances) {connective : Token}
    {xs : List α} (hread : many connective item c = .ok (xs, d)) :
    d.rest.length ≤ c.rest.length :=
  h.manyUpTo_le hread

variable {group : Parser Expression}

theorem Advances.operandWith (h : group.Advances) : (operandWith now group).Advances := by
  intro c e d hread
  unfold Parser.operandWith at hread
  split at hread
  · exact h _ _ _ hread
  · cases hx : condition now c with
    | error r => simp [hx, Except.map] at hread
    | ok p =>
      obtain ⟨x, d'⟩ := p
      simp only [hx, Except.map, Except.ok.injEq, Prod.mk.injEq] at hread
      obtain ⟨-, rfl⟩ := hread
      exact condition_advances _ _ _ hx

theorem Advances.termWith (h : group.Advances) : (termWith now group).Advances := by
  intro c e d hread
  obtain ⟨⟨first, c₁⟩, hfirst, hread⟩ := bind_eq_ok.1 hread
  obtain ⟨⟨others, c₂⟩, hothers, heq⟩ := bind_eq_ok.1 hread
  cases heq
  exact Nat.lt_of_le_of_lt (condition_advances.many_le hothers) (h.operandWith _ _ _ hfirst)

theorem Advances.expressionWith (h : group.Advances) : (expressionWith now group).Advances := by
  intro c e d hread
  obtain ⟨⟨first, c₁⟩, hfirst, hread⟩ := bind_eq_ok.1 hread
  obtain ⟨⟨others, c₂⟩, hothers, heq⟩ := bind_eq_ok.1 hread
  cases heq
  exact Nat.lt_of_le_of_lt (h.termWith.many_le hothers) (h.termWith _ _ _ hfirst)

theorem Advances.closed {inner : Parser Expression} (h : inner.Advances) :
    (closed inner).Advances := by
  intro c e d hread
  obtain ⟨⟨e', c₁⟩, hinner, hread⟩ := bind_eq_ok.1 hread
  have hlength := h _ _ _ hinner
  dsimp only at hread
  split at hread
  · cases hread
    simp only [Cursor.skip, List.length_drop] at hlength ⊢
    omega
  · cases hread

theorem reject_advances (cause : Rejection.Cause) :
    Advances (α := α) fun c => c.reject cause := by
  intro c x d hread
  cases hread

/-! ## The rule of the grammar -/

/-- Reads an expression by the rule of the grammar: a term, and after `||` an expression
    again, of which the term becomes the left side. -/
def recursive (term : Parser Expression) (hterm : term.Advances) (c : Cursor) :
    Except Rejection (Expression × Cursor) :=
  match hread : term c with
  | .error r => .error r
  | .ok (first, d) =>
    have : d.rest.length < c.rest.length := hterm c first d hread
    if d.isAt (.bare "||") then do
      let (others, d) ← recursive term hterm (d.skip 1)
      return (.or first others, d)
    else .ok (first, d)
termination_by c.rest.length
decreasing_by
  simp only [Cursor.skip, List.length_drop]
  omega

theorem recursive_eq {term : Parser Expression} (hterm : term.Advances) (c : Cursor) :
    recursive term hterm c = (do
      let (first, d) ← term c
      if d.isAt (.bare "||") then do
        let (others, d) ← recursive term hterm (d.skip 1)
        return (.or first others, d)
      else .ok (first, d)) := by
  rw [recursive]
  split
  · rename_i hread
    rw [hread]
    rfl
  · rename_i hread
    dsimp only
    rw [hread]
    rfl

/-- The loop that reads an expression goes by the rule, too. -/
theorem expressionWith_step (hterm : (termWith now group).Advances) (c : Cursor) :
    expressionWith now group c = (do
      let (first, d) ← termWith now group c
      if d.isAt (.bare "||") then do
        let (others, d) ← expressionWith now group (d.skip 1)
        return (.or first others, d)
      else .ok (first, d)) := by
  rw [expressionWith_eq]
  cases termWith now group c with
  | error r => rfl
  | ok p => exact continueExpression_eq hterm

/-- **The loop reads what the rule reads**: by induction on the tokens that are left. -/
theorem expressionWith_eq_recursive (hterm : (termWith now group).Advances) (c : Cursor) :
    expressionWith now group c = recursive (termWith now group) hterm c := by
  induction hk : c.rest.length using Nat.strongRecOn generalizing c with
  | _ k ih =>
    rw [expressionWith_step hterm, recursive_eq]
    cases hread : termWith now group c with
    | error r => rfl
    | ok p =>
      obtain ⟨first, d⟩ := p
      have hlength := hterm _ _ _ hread
      have hless : (d.skip 1).rest.length < k := by
        simp only [Cursor.skip, List.length_drop]
        omega
      have hrest := ih _ hless (d.skip 1) rfl
      simp only [bind, Except.bind, hrest]

/-! ## Groups -/

/-- Reads a group where `allowance` more parentheses may be opened, its inside and all
    groups in there by the rule of the grammar. -/
def recursiveGroup (now : Instant) : (allowance : Nat) → { p : Parser Expression // p.Advances }
  | 0 => ⟨fun c => c.reject .tooDeep, reject_advances _⟩
  | allowance + 1 =>
    let group := recursiveGroup now allowance
    have hterm : (termWith now group.1).Advances := group.2.termWith
    ⟨closed (recursive (termWith now group.1) hterm),
      Advances.closed fun c e d hread =>
        group.2.expressionWith c e d ((expressionWith_eq_recursive hterm c).trans hread)⟩

/-- Reads an expression where `allowance` more parentheses may be opened, by the rule of the
    grammar at every depth. -/
def recursiveExpression (now : Instant) (allowance : Nat) : Parser Expression :=
  recursive (termWith now (recursiveGroup now allowance).1)
    (recursiveGroup now allowance).2.termWith

/-- By induction on how many parentheses may be opened. -/
theorem recursiveGroup_eq (now : Instant) (allowance : Nat) :
    (recursiveGroup now allowance).1 = Parser.group now allowance := by
  induction allowance with
  | zero => rfl
  | succ allowance ih =>
    have hterm : (termWith now (recursiveGroup now allowance).1).Advances :=
      (recursiveGroup now allowance).2.termWith
    have hinner : recursive (termWith now (recursiveGroup now allowance).1) hterm =
        expressionWith now (recursiveGroup now allowance).1 :=
      funext fun c => (expressionWith_eq_recursive hterm c).symm
    rw [recursiveGroup, Parser.group, ← ih]
    exact congrArg Parser.closed hinner

theorem recursiveExpression_eq (now : Instant) (allowance : Nat) :
    recursiveExpression now allowance = expression now allowance := by
  funext c
  rw [recursiveExpression, ← expressionWith_eq_recursive, recursiveGroup_eq]
  rfl

/-- **Collecting the terms of a chain and joining them from the right is the recursion of the
    grammar.**  At every place of every token stream, however many parentheses may still be
    opened, an expression is read as a term and, after `||`, an expression at the same depth;
    and the reader that does nothing else, also inside of groups, gives the same tree and
    place, or the same rejection. -/
theorem expression_eq_recursion (now : Instant) (allowance : Nat) (c : Cursor) :
    expression now allowance c = (do
      let (first, d) ← term now allowance c
      if d.isAt (.bare "||") then do
        let (others, d) ← expression now allowance (d.skip 1)
        return (.or first others, d)
      else .ok (first, d)) ∧
    expression now allowance c = recursiveExpression now allowance c := by
  refine ⟨?_, by rw [recursiveExpression_eq]⟩
  have hgroup : (Parser.group now allowance).Advances := by
    rw [← recursiveGroup_eq]
    exact (recursiveGroup now allowance).2
  exact expressionWith_step hgroup.termWith c

end TaskQuery.Parser
