/-
  TaskQuery — the readers step by step.

  The readers of operands, terms and expressions call one another, and the loops of chains and
  lists go on as long as the next token lets them.  Here all of this happens one step at a time,
  and the readers that wait for another one stand on a stack.  No loop has a bound, so nothing
  but the tokens ends a walk.

  * `Call` is a reader at work, `Caller` one that waits; `Walk` is a state: a call at a place, an
    expression that was found and the place after it, or a rejection;
  * `Walk.step` takes one step, and `Walk.Reaches now w w'`: steps lead from `w` to `w'`;
  * `Walk.Reads now call p`: from a call, whatever waits for it, steps lead to what `p` reads;
  * `Parser.list_reaches` and `chain_reaches`: the loop over a list comes to its end, and the loops
    over connectives read what `Parser.many` reads;
  * `Parser.condition_reads` and `reader_reads`: calls of readers read what the readers read.
-/
import Mathlib.Logic.Function.Iterate
import TaskQuery.Proofs.Query.Acceptance

namespace TaskQuery

/-! ## Calls -/

/-- A reader at work. -/
inductive Call where
  /-- The reader of a phrase, where `n` more parentheses may be opened. -/
  | phrase (phrase : Phrase) (n : Nat)
  /-- The reader of a condition. -/
  | condition
  /-- The reader of the operator after a field. -/
  | operator (f : Field)
  /-- The reader of a single value. -/
  | scalar (f : Field) (o : Operator)
  /-- The loop over a list that began at `first`, of which it has read `items`. -/
  | list (f : Field) (o : Operator) (first : Cursor) (items : List String)

/-- A reader that waits for what it called. -/
inductive Caller where
  /-- The reader of a chain, which waits for the first part. -/
  | first (connective : Connective) (n : Nat)
  /-- The loop of a chain, which has read the parts `first` and `others` and waits for another
      one. -/
  | next (connective : Connective) (n : Nat) (first : Expression) (others : List Expression)
  /-- The reader of a group, which waits for the inside. -/
  | group

/-- The reader of the other parts of a chain. -/
def Connective.part : Connective → (n : Nat) → Call
  | and, _ => .condition
  | or, n => .phrase .term n

/-- The parts of a chain, put together: from the left with `&&`, from the right with `||`. -/
def Connective.chain : Connective → (first : Expression) → (others : List Expression) → Expression
  | and, first, others => others.foldl .and first
  | or, first, others => Parser.joinTerms first others

/-- A state of a walk over tokens. -/
inductive Walk where
  /-- A reader is at work at a place. -/
  | reading (call : Call) (c : Cursor) (callers : List Caller)
  /-- An expression was found, and the walk is at the place after it. -/
  | found (e : Expression) (c : Cursor) (callers : List Caller)
  /-- The walk was given up. -/
  | rejected (r : Rejection)

namespace Walk

/-! ## Steps -/

/-- Goes on from what a reader gives; a rejection is passed to all callers at once. -/
def after (result : Except Rejection (α × Cursor)) (next : α → Cursor → Walk) : Walk :=
  match result with
  | .ok (x, d) => next x d
  | .error r => rejected r

/-- The check of the loop of a chain, after the parts that it has read. -/
def goOn (connective : Connective) (n : Nat) (first : Expression) (others : List Expression)
    (c : Cursor) (callers : List Caller) : Walk :=
  if c.isAt (.bare connective.symbol) then
    reading (connective.part n) (c.skip 1) (.next connective n first others :: callers)
  else found (connective.chain first others) c callers

/-- Opens a parenthesis, if it is one of those that may be opened. -/
def openGroup (c : Cursor) (callers : List Caller) : (n : Nat) → Walk
  | 0 => rejected ⟨.tooDeep, c.index⟩
  | n + 1 => reading (.phrase .expression n) (c.skip 1) (.group :: callers)

/-- The end of a list that began at `first`. -/
def endList (f : Field) (o : Operator) (first : Cursor) (items : List String) (c : Cursor)
    (callers : List Caller) : Walk :=
  if items = [] then rejected ⟨.missingValue f o, first.index⟩
  else found (.condition ⟨f, o, .list items⟩) c callers

/-- One step of a reader. -/
def work (now : Instant) (c : Cursor) (callers : List Caller) : Call → Walk
  | .phrase .expression n => reading (.phrase .term n) c (.first .or n :: callers)
  | .phrase .term n => reading (.phrase .operand n) c (.first .and n :: callers)
  | .phrase .operand n =>
    if c.isAt (.bare "(") then openGroup c callers n else reading .condition c callers
  | .condition => after (Parser.field c) fun f d => reading (.operator f) d callers
  | .operator f => after (Parser.operator f c) fun o d =>
      reading (if o.takesList then .list f o d [] else .scalar f o) d callers
  | .scalar f o => after (Parser.scalar now f o c) fun v d => found (.condition ⟨f, o, v⟩) d callers
  | .list f o first items =>
    match c.rest.head?.filter fun token => !Parser.endsList token with
    | some token => reading (.list f o first (items ++ Parser.itemsOf token)) (c.skip 1) callers
    | none => endList f o first items c callers

/-- One step of a walk.  It is over with an expression for which nobody waits, and with a
    rejection. -/
def step (now : Instant) : Walk → Walk
  | reading call c callers => work now c callers call
  | found e c (.first connective n :: callers) => goOn connective n e [] c callers
  | found e c (.next connective n first others :: callers) =>
    goOn connective n first (others ++ [e]) c callers
  | found e c (.group :: callers) =>
    if c.isAt (.bare ")") then found e (c.skip 1) callers
    else rejected ⟨.unclosedParenthesis, c.index⟩
  | found e c [] => found e c []
  | rejected r => rejected r

/-- Steps lead from one state to another. -/
def Reaches (now : Instant) (w w' : Walk) : Prop :=
  ∃ k, (step now)^[k] w = w'

/-- At every place, and whatever waits for it, a call leads to what the reader `p` gives there;
    `toExpression` is the expression that is passed on. -/
def Reads (now : Instant) (call : Call) (p : Parser α) (toExpression : α → Expression) : Prop :=
  ∀ c callers, Reaches now (reading call c callers)
    (after (p c) fun x d => found (toExpression x) d callers)

section
variable {now : Instant} {w w' w'' : Walk}

theorem Reaches.refl (w : Walk) : Reaches now w w :=
  ⟨0, rfl⟩

theorem Reaches.trans (h : Reaches now w w') (h' : Reaches now w' w'') : Reaches now w w'' := by
  obtain ⟨k, rfl⟩ := h
  obtain ⟨k', rfl⟩ := h'
  exact ⟨k' + k, Function.iterate_add_apply _ _ _ _⟩

theorem Reaches.head (h : Reaches now (step now w) w') : Reaches now w w' :=
  Reaches.trans ⟨1, rfl⟩ h

/-- Where a walk is over, it stays. -/
theorem Reaches.stays (h : Reaches now w w') (hover : step now w' = w') :
    ∃ k, ∀ m, k ≤ m → (step now)^[m] w = w' := by
  obtain ⟨k, rfl⟩ := h
  refine ⟨k, fun m hm => ?_⟩
  obtain ⟨i, rfl⟩ := Nat.exists_eq_add_of_le' hm
  rw [Function.iterate_add_apply]
  exact Function.iterate_fixed hover i

variable {result : Except Rejection (α × Cursor)} {next next' : α → Cursor → Walk}

theorem reaches_after (h : ∀ x d, result = .ok (x, d) → Reaches now (next x d) (next' x d)) :
    Reaches now (after result next) (after result next') := by
  cases result with
  | error r => exact Reaches.refl _
  | ok p => exact h p.1 p.2 rfl

theorem after_bind {g : α × Cursor → Except Rejection (β × Cursor)} {next : β → Cursor → Walk} :
    Walk.after (result >>= g) next = Walk.after result fun x d => Walk.after (g (x, d)) next := by
  cases result <;> rfl

theorem after_map {g : α × Cursor → β × Cursor} {next : β → Cursor → Walk} :
    Walk.after (result.map g) next =
      Walk.after result fun x d => next (g (x, d)).1 (g (x, d)).2 := by
  cases result <;> rfl

end

end Walk

namespace Parser

open Walk

variable {α : Type} {now : Instant} {n : Nat} {c : Cursor} {callers : List Caller}
  {f : Field} {o : Operator}

/-! ## Lists -/

theorem list_of_halts (h : c.Halts) : list c = ([], c) := by
  rw [list, h.takeWhile]
  rfl

theorem rest_skip_one {token : Token} {rest : List Token} (hr : c.rest = token :: rest) :
    (c.skip 1).rest = rest := by
  rw [Cursor.skip, hr, List.drop_one, List.tail_cons]

/-- A list begins with the items of the first token, unless that ends it. -/
theorem list_cons {token : Token} {rest : List Token} (hr : c.rest = token :: rest)
    (hends : endsList token = false) :
    list c = (itemsOf token ++ (list (c.skip 1)).1, (list (c.skip 1)).2) := by
  rw [list, list, rest_skip_one hr, hr, List.takeWhile_cons_of_pos (by simp [hends])]
  simp only [List.flatMap_cons, List.length_cons, Cursor.skip_skip, Nat.add_comm]

section
variable {first : Cursor} {items : List String}

theorem step_list_of_halts (h : c.Halts) : step now (.reading (.list f o first items) c callers) =
    .endList f o first items c callers := by
  have hnone : (c.rest.head?.filter fun token => !endsList token) = none := by
    rw [Option.filter_eq_none_iff]
    intro token ht
    simp [h token ht]
  simp only [step, work, hnone]

theorem step_list_cons {token : Token} {rest : List Token} (hr : c.rest = token :: rest)
    (hends : endsList token = false) : step now (.reading (.list f o first items) c callers) =
      .reading (.list f o first (items ++ itemsOf token)) (c.skip 1) callers := by
  simp [step, work, hr, Option.filter, hends]

theorem list_reaches_of_halts (h : c.Halts) :
    Reaches now (.reading (.list f o first items) c callers)
      (.endList f o first (items ++ (list c).1) (list c).2 callers) := by
  refine Reaches.head ?_
  rw [step_list_of_halts h, list_of_halts h, List.append_nil]
  exact Reaches.refl _

/-- The loop over a list: by induction on the tokens that are left. -/
theorem list_reaches : Reaches now (.reading (.list f o first items) c callers)
    (.endList f o first (items ++ (list c).1) (list c).2 callers) := by
  induction hr : c.rest generalizing c items with
  | nil =>
    refine list_reaches_of_halts ?_
    rw [Cursor.Halts, hr]
    nofun
  | cons token rest ih =>
    cases hends : endsList token with
    | true =>
      refine list_reaches_of_halts ?_
      rw [Cursor.Halts, hr]
      rintro _ ⟨⟩
      exact hends
    | false =>
      refine Reaches.head ?_
      rw [step_list_cons hr hends, list_cons hr hends, ← List.append_assoc]
      exact ih (rest_skip_one hr)

end

/-! ## Conditions -/

theorem condition_reads : Reads now .condition (condition now) .condition := by
  intro c callers
  refine Reaches.head ?_
  show Reaches now (.after (field c) _) (.after (field c >>= _) _)
  rw [after_bind]
  refine reaches_after fun f c₁ _ => Reaches.head ?_
  show Reaches now (.after (operator f c₁) _) (.after (operator f c₁ >>= _) _)
  rw [after_bind]
  refine reaches_after fun o c₂ _ => ?_
  show Reaches now (.reading (if o.takesList then .list f o c₂ [] else .scalar f o) c₂ callers)
    (.after (if o.takesList then _ else _) _)
  split
  · refine list_reaches.trans ?_
    rw [List.nil_append, listItems_eq, endList]
    split <;> exact Reaches.refl _
  · refine Reaches.head ?_
    show Reaches now (.after (scalar now f o c₂) _) (.after (scalar now f o c₂ >>= _) _)
    rw [after_bind]
    exact Reaches.refl _

/-! ## Chains -/

/-- The loop of a chain: by induction on the tokens that are left. -/
theorem chain_reaches {item : Parser α} {toExpression : α → Expression} {connective : Connective}
    (hitem : item.Advances) (hread : Reads now (connective.part n) item toExpression)
    (first : Expression) (others : List Expression) :
    Reaches now (.goOn connective n first others c callers)
      (.after (many (.bare connective.symbol) item c) fun xs d =>
        .found (connective.chain first (others ++ xs.map toExpression)) d callers) := by
  induction hk : c.rest.length using Nat.strongRecOn generalizing c others with
  | _ k ih =>
    rw [goOn, many_eq hitem]
    split
    · refine (hread _ _).trans ?_
      rw [after_bind]
      refine reaches_after fun x d hx => Reaches.head ?_
      have hless : d.rest.length < k := by
        have := hitem _ _ _ hx
        simp only [Cursor.skip, List.length_drop] at this
        omega
      refine (ih _ hless (others ++ [toExpression x]) rfl).trans ?_
      dsimp only
      rw [after_bind]
      refine reaches_after fun xs d' _ => ?_
      rw [List.append_assoc]
      exact Reaches.refl _
    · rw [after, List.map_nil, List.append_nil]
      exact Reaches.refl _

/-! ## Phrases -/

theorem operand_reads (hgroup : ∀ c callers, c.isAt (.bare "(") →
      Reaches now (.reading (.phrase .operand n) c callers)
        (.after (group now n c) fun e d => .found e d callers)) :
    Reads now (.phrase .operand n) (operand now n) id := by
  intro c callers
  show Reaches now _ (.after (if c.isAt (.bare "(") then _ else _) _)
  split
  · rename_i hat
    exact hgroup c callers hat
  · rename_i hat
    refine Reaches.head ?_
    rw [step, work, if_neg hat]
    refine (condition_reads c callers).trans ?_
    rw [after_map]
    exact Reaches.refl _

theorem group_reaches (h : Reads now (.phrase .expression n) (expression now n) id)
    (hat : c.isAt (.bare "(")) : Reaches now (.reading (.phrase .operand (n + 1)) c callers)
      (.after (group now (n + 1) c) fun e d => .found e d callers) := by
  refine Reaches.head ?_
  rw [step, work, if_pos hat]
  refine (h _ _).trans ?_
  show Reaches now _ (.after (expression now n (c.skip 1) >>= _) _)
  rw [after_bind]
  refine reaches_after fun e d _ => Reaches.head ?_
  show Reaches now (if d.isAt (.bare ")") then _ else _)
    (.after (if d.isAt (.bare ")") then _ else _) _)
  split <;> exact Reaches.refl _

theorem term_reads (h : Reads now (.phrase .operand n) (operand now n) id) :
    Reads now (.phrase .term n) (term now n) id := by
  intro c callers
  refine Reaches.head ((h c _).trans ?_)
  show Reaches now _ (.after (operand now n c >>= _) _)
  rw [after_bind]
  refine reaches_after fun e d _ => Reaches.head ?_
  refine (chain_reaches condition_advances condition_reads e []).trans ?_
  dsimp only
  rw [after_bind]
  refine reaches_after fun xs d' _ => ?_
  rw [List.nil_append, Connective.chain, List.foldl_map]
  exact Reaches.refl _

theorem expression_reads (h : Reads now (.phrase .term n) (term now n) id) :
    Reads now (.phrase .expression n) (expression now n) id := by
  intro c callers
  refine Reaches.head ((h c _).trans ?_)
  show Reaches now _ (.after (term now n c >>= _) _)
  rw [after_bind]
  refine reaches_after fun e d _ => Reaches.head ?_
  refine (chain_reaches (term_sound n).advances h e []).trans ?_
  dsimp only
  rw [after_bind]
  refine reaches_after fun xs d' _ => ?_
  rw [List.nil_append, List.map_id]
  exact Reaches.refl _

/-- **From a call of the reader of a phrase, steps lead to what it reads**: by induction on how
    many parentheses may be opened. -/
theorem reader_reads (phrase : Phrase) (n : Nat) :
    Reads now (.phrase phrase n) (reader now n phrase) id := by
  have hoperand : Reads now (.phrase .operand n) (operand now n) id := by
    induction n with
    | zero =>
      refine operand_reads fun c callers hat => Reaches.head ?_
      rw [step, work, if_pos hat]
      exact Reaches.refl _
    | succ n ih =>
      refine operand_reads fun c callers hat => ?_
      exact group_reaches (expression_reads (term_reads ih)) hat
  cases phrase with
  | operand => exact hoperand
  | term => exact term_reads hoperand
  | expression => exact expression_reads (term_reads hoperand)

end Parser

end TaskQuery
