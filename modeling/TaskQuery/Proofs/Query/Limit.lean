/-
  TaskQuery — the limit on conditions.

  The connectives among the tokens are counted before anything is read.  In a query that
  is accepted each of them joins two expressions of the tree, and nothing else does, so
  the limit bounds the tree.

  * `getElem?_connectiveIndexes`: the connectives of a token stream, by number;
  * `Fault.cause_ne`: no fault of a query is that it has too many conditions;
  * `Expression.Descends e nodes`: a way down a tree from its root;
    `Expression.Descends.countP_isJoined_le`: it meets no more connectives than there are;
  * `connectives_limit_queries`: what the limit rejects, and what it bounds.
-/
import TaskQuery.Proofs.Query.Fault
import TaskQuery.Proofs.Query.Lexeme

namespace TaskQuery

variable {now : Instant} {query : String} {tokens used : List Token} {d : Cursor}
  {cause : Rejection.Cause} {e : Expression} {nodes : List Expression}

/-! ## Connectives by number -/

theorem le_of_mem_connectiveIndexes {index position : Nat}
    (h : position ∈ connectiveIndexes index tokens) : index ≤ position := by
  induction tokens generalizing index with
  | nil => cases h
  | cons token rest ih =>
    rw [connectiveIndexes] at h
    split at h
    · rcases List.mem_cons.1 h with rfl | h
      · exact Nat.le_refl _
      · exact Nat.le_of_succ_le (ih h)
    · exact Nat.le_of_succ_le (ih h)

/-- The connective that `i` others stand before is where a connective stands after `i`
    others. -/
theorem getElem?_connectiveIndexes {index position i : Nat} :
    (connectiveIndexes index tokens)[i]? = some (index + position) ↔
      (∃ token ∈ tokens[position]?, token.joins) ∧ (tokens.take position).countP Token.joins = i := by
  induction tokens generalizing index position i with
  | nil => simp [connectiveIndexes]
  | cons token rest ih =>
    have hjoins : token = .bare "&&" ∨ token = .bare "||" ↔ token.joins := by simp [Token.joins]
    rw [connectiveIndexes]
    cases position with
    | zero =>
      -- no connective after the first token stands at its index
      have hafter : index ∉ connectiveIndexes (index + 1) rest :=
        fun h => Nat.not_succ_le_self index (le_of_mem_connectiveIndexes h)
      have hnone (j : Nat) : (connectiveIndexes (index + 1) rest)[j]? ≠ some index :=
        fun h => hafter (List.mem_of_getElem? h)
      by_cases ht : token.joins
      · rw [if_pos (hjoins.2 ht)]
        cases i with
        | zero => simp [ht]
        | succ i => simp [hnone]
      · rw [if_neg (fun h => ht (hjoins.1 h))]
        simp [ht, hnone]
    | succ position =>
      have hshift : index + (position + 1) = index + 1 + position := by omega
      rw [hshift]
      by_cases ht : token.joins
      · rw [if_pos (hjoins.2 ht)]
        cases i with
        | zero => simp [List.countP_cons_of_pos ht]; omega
        | succ i => simp [ih, ht]
      · rw [if_neg (fun h => ht (hjoins.1 h)), ih]
        simp [List.countP_cons_of_neg ht]

/-! ## Rejections -/

theorem Misfit.cause_ne (h : Misfit used d cause) : cause ≠ .tooManyConditions := by
  cases h <;> exact fun h => by cases h

theorem Fault.cause_ne (h : Fault now used d cause) : cause ≠ .tooManyConditions := by
  cases h with
  | blocked _ hblocked =>
    cases hblocked with
    | condition hmisfit | operand hmisfit => exact hmisfit.cause_ne
    | tooDeep | unclosed => exact fun h => by cases h
  | leftOver => exact fun h => by cases h

/-- A query has too many conditions exactly if there is a connective beyond the limit. -/
theorem tooManyConditions_iff {position : Nat} :
    parseQuery query now = .error ⟨.tooManyConditions, position⟩ ↔
      (connectiveIndexes 0 (tokenize query))[maxConditions - 1]? = some position := by
  rw [parseQuery_rejects_iff, parseTokens_eq_error_iff]
  constructor
  · rintro ⟨-, ⟨-, h⟩ | ⟨-, used, d, -, hfault, -⟩⟩
    · exact h
    · exact absurd rfl hfault.cause_ne
  · intro h
    refine ⟨fun hnil => ?_, Or.inl ⟨rfl, h⟩⟩
    rw [hnil] at h
    cases h

/-! ## Ways down a tree -/

/-- Whether two expressions are joined at the root. -/
def Expression.isJoined : Expression → Bool
  | condition _ => false
  | joined .. => true

/-- A way down the tree of an expression: the nodes from the root on, each a branch of
    the one before. -/
inductive Expression.Descends : Expression → List Expression → Prop
  | here {root} : Descends root [root]
  | left {connective left right nodes} : Descends left nodes →
      Descends (.joined connective left right) (.joined connective left right :: nodes)
  | right {connective left right nodes} : Descends right nodes →
      Descends (.joined connective left right) (.joined connective left right :: nodes)

theorem Expression.Descends.countP_isJoined_le (h : e.Descends nodes) :
    nodes.countP isJoined ≤ e.connectives := by
  induction h with
  | @here root => cases root <;> simp [isJoined, connectives]
  | left _ ih | right _ ih =>
    rw [List.countP_cons_of_pos rfl, connectives]
    omega

/-- **The limit on conditions is exact, and bounds the tree.**  Let there be `k` connectives
    in a query: it is rejected for too many conditions exactly if `k` is 512 or more,
    whatever else is wrong with it, and then at the 512th of them; and if it is accepted,
    its tree has `k + 1` conditions and `k` connectives, so no more than 511 on any way
    down. -/
theorem connectives_limit_queries (query : String) (now : Instant) :
    let k := (tokenize query).countP Token.joins
    ((∃ position, parseQuery query now = .error ⟨.tooManyConditions, position⟩) ↔ 512 ≤ k) ∧
    (∀ position, parseQuery query now = .error ⟨.tooManyConditions, position⟩ ↔
      (∃ token ∈ (tokenize query)[position]?, token.joins) ∧
        ((tokenize query).take position).countP Token.joins = 511) ∧
    (∀ e, parseQuery query now = .ok (some e) →
      e.conditions = k + 1 ∧ e.connectives = k ∧ e.conditions ≤ 512 ∧
        ∀ nodes, e.Descends nodes → nodes.countP Expression.isJoined ≤ 511) := by
  intro k
  refine ⟨?_, fun position => ?_, fun e he => ?_⟩
  · simp only [tooManyConditions_iff]
    rw [← Option.ne_none_iff_exists', Ne, connectiveIndexes_getElem?_eq_none_iff, Nat.not_lt]
    exact Iff.rfl
  · have hindex : (connectiveIndexes 0 (tokenize query))[maxConditions - 1]? = some (0 + position) ↔
        (∃ token ∈ (tokenize query)[position]?, token.joins) ∧
          ((tokenize query).take position).countP Token.joins = maxConditions - 1 :=
      getElem?_connectiveIndexes
    rw [Nat.zero_add] at hindex
    exact tooManyConditions_iff.trans hindex
  · obtain ⟨hlimit, hderives⟩ := parseQuery_eq_some_iff.1 he
    have hconnectives : e.connectives = k := hderives.countP_joins.symm
    have hk : k < 512 := hlimit
    have hconditions := e.conditions_eq
    refine ⟨by omega, hconnectives, by omega, fun nodes hnodes => ?_⟩
    have := hnodes.countP_isJoined_le
    omega

/-- A query of nothing but connectives is rejected at the 512th of them; one with two, and a third
    one in quotes, has three conditions. -/
theorem connectives_limit_ampersands :
    parseQuery (writtenTokens (List.replicate 600 (.bare "&&"))) ⟨0, 0⟩ =
      .error ⟨.tooManyConditions, 511⟩ ∧
    ∃ e, parseQuery "(done = true || labels like \"&&\") && project = a" ⟨0, 0⟩ = .ok (some e) ∧
      e.conditions = 3 ∧ e.connectives = 2 := by
  constructor
  · have htokens : tokenize (writtenTokens (List.replicate 600 (.bare "&&"))) =
        List.replicate 600 (.bare "&&") := by
      refine tokenize_writtenTokens fun token ht => ?_
      rw [List.eq_of_mem_replicate ht]
      exact ⟨by decide, (fun hquoted => by cases hquoted), fun _ => Or.inl (by decide)⟩
    refine ((connectives_limit_queries _ ⟨0, 0⟩).2.1 511).2 ?_
    rw [htokens, List.take_replicate, List.countP_replicate, List.getElem?_replicate]
    exact ⟨⟨_, rfl, by decide⟩, by decide⟩
  · have haccepted : parseQuery "(done = true || labels like \"&&\") && project = a" ⟨0, 0⟩ =
        .ok (some (.joined .and (.joined .or (.condition ⟨.done, .eq, .bool true⟩)
          (.condition ⟨.labels, .like, .text "&&"⟩)) (.condition ⟨.project, .eq, .text "a"⟩))) := by
      rfl
    obtain ⟨hconditions, hconnectives, -⟩ := (connectives_limit_queries _ ⟨0, 0⟩).2.2 _ haccepted
    have hjoins : (tokenize "(done = true || labels like \"&&\") && project = a").countP
        Token.joins = 2 := by decide +kernel
    rw [hjoins] at hconditions hconnectives
    exact ⟨_, haccepted, hconditions, hconnectives⟩

end TaskQuery
