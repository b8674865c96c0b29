/-
  TaskQuery — reading goes on, and ends.

  A reader that reads something takes at least one token, and none beyond the end of the tokens.
  In a walk that does the same step by step, no loop can go round without a token, and no more
  expressions can stand inside of one another than parentheses may be opened.

  * `Cursor.Behind tokens i d`: the place `d` of a token stream is after the place `i`;
  * `Caller.rounds`: how often a loop over connectives was entered; `Walk.expressions`: how many
    readers of expressions are at work at once;
  * `Walk.Within c₀ limit w`: the state `w` of a walk from `c₀` is within bounds;
    `Walk.within_step` and `Walk.within_run`: so are all states after it;
  * `Parser.reading_goes_on_and_ends`: what readers take, and where walks lead.
-/
import TaskQuery.Proofs.Query.Walk

namespace TaskQuery

/-! ## Places of a token stream -/

namespace Cursor

/-- The place `d` of a token stream is after the place `i`. -/
def Behind (tokens : List Token) (i : Nat) (d : Cursor) : Prop :=
  d = (start tokens).skip d.index ∧ i < d.index ∧ d.index ≤ tokens.length

variable {tokens used : List Token} {i : Nat} {d : Cursor}

theorem Passes.index_le (h : ((start tokens).skip i).Passes used d) (hi : i ≤ tokens.length) :
    d.index ≤ tokens.length := by
  have hlength := congrArg List.length h.1
  rw [rest_skip_start, List.length_drop, List.length_append] at hlength
  rw [h.index_eq]
  omega

theorem Passes.behind (h : ((start tokens).skip i).Passes used d) (hne : used ≠ []) :
    d.Behind tokens i := by
  have hpos := List.length_pos_iff.2 hne
  have hless := h.length_lt hne
  rw [rest_skip_start, List.length_drop] at hless
  exact ⟨h.eq_place, by rw [h.index_eq]; omega, h.index_le (by omega)⟩

theorem halts_skip_start (h : ((start tokens).skip i).Halts) :
    tokens.length ≤ i ∨ ∃ token, tokens[i]? = some token ∧ Parser.endsList token := by
  rw [Halts, rest_skip_start, List.head?_drop] at h
  cases ht : tokens[i]? with
  | none => exact Or.inl (List.getElem?_eq_none_iff.1 ht)
  | some token => exact Or.inr ⟨token, rfl, h token ht⟩

end Cursor

/-! ## What is counted -/

/-- How often the loop of a chain has been entered. -/
def Caller.rounds : Caller → Nat
  | next _ _ _ others => others.length + 1
  | first _ _ | group => 0

/-- Whether the caller reads an expression, and waits for one of its terms. -/
def Caller.isExpression : Caller → Bool
  | first connective _ | next connective _ _ _ => connective = .or
  | group => false

/-- How many more parentheses the parts of a chain may open. -/
def Caller.allowance : Caller → Nat
  | first _ n | next _ n _ _ => n
  | group => 0

/-- One for a reader of expressions. -/
def Call.expressions : Call → Nat
  | phrase .expression _ => 1
  | _ => 0

/-- How many more parentheses a call may open. -/
def Call.allowance : Call → Nat
  | phrase _ n => n
  | _ => 0

namespace Walk

/-- The readers that wait. -/
def callers : Walk → List Caller
  | reading _ _ callers | found _ _ callers => callers
  | rejected _ => []

/-- The place of a walk that goes on. -/
def place? : Walk → Option Cursor
  | reading _ c _ | found _ c _ => some c
  | rejected _ => none

/-- How many readers of expressions are at work or wait. -/
def expressions : Walk → Nat
  | reading call _ callers => callers.countP Caller.isExpression + call.expressions
  | found _ _ callers => callers.countP Caller.isExpression
  | rejected _ => 0

/-! ## The invariant -/

/-- The callers on a stack are within bounds while `left` of `total` tokens are still to be read:
    a loop has taken a token for every round, and the expressions that are being read, up to a
    caller, and those that may still be opened there are at most `limit`. -/
inductive Fits (limit total left : Nat) : List Caller → Prop
  | nil : Fits limit total left []
  | cons {caller callers} : caller.rounds + left ≤ total →
      (caller :: callers).countP Caller.isExpression + caller.allowance ≤ limit →
      Fits limit total left callers → Fits limit total left (caller :: callers)

/-- A walk from `c₀` has come to `c`, and its callers are within bounds. -/
def Bounded (c₀ : Cursor) (limit : Nat) (c : Cursor) (callers : List Caller) : Prop :=
  (∃ used, c₀.Passes used c) ∧ Fits limit c₀.rest.length c.rest.length callers

/-- A walk from `c₀` is within bounds. -/
def Within (c₀ : Cursor) (limit : Nat) : Walk → Prop
  | reading call c callers => Bounded c₀ limit c callers ∧
      callers.countP Caller.isExpression + call.expressions + call.allowance ≤ limit
  | found _ c callers => Bounded c₀ limit c callers
  | rejected _ => True

section
variable {now : Instant} {limit total left n : Nat} {c₀ c d : Cursor} {callers : List Caller}
  {caller : Caller} {used : List Token} {w : Walk} {connective : Connective} {e first : Expression}
  {others : List Expression}

theorem Fits.mono (h : Fits limit total left callers) {left' : Nat} (hle : left' ≤ left) :
    Fits limit total left' callers := by
  induction h with
  | nil => exact .nil
  | cons hrounds hlimit _ ih => exact .cons (by omega) hlimit ih

theorem Fits.countP_le (h : Fits limit total left callers) :
    callers.countP Caller.isExpression ≤ limit := by
  cases h with
  | nil => exact Nat.zero_le _
  | cons _ hlimit _ => omega

theorem Fits.rounds_le (h : Fits limit total left callers) :
    ∀ caller ∈ callers, caller.rounds ≤ total := by
  induction h with
  | nil => nofun
  | cons hrounds _ _ ih =>
    intro caller hcaller
    rcases List.mem_cons.1 hcaller with rfl | hcaller
    · omega
    · exact ih caller hcaller

theorem Bounded.move (h : Bounded c₀ limit c callers) (hp : c.Passes used d) :
    Bounded c₀ limit d callers := by
  obtain ⟨⟨before, hbefore⟩, hfits⟩ := h
  refine ⟨⟨_, hbefore.trans hp⟩, hfits.mono ?_⟩
  rw [hp.1, List.length_append]
  omega

theorem Bounded.left_le (h : Bounded c₀ limit c callers) : c.rest.length ≤ c₀.rest.length := by
  obtain ⟨⟨before, hbefore⟩, -⟩ := h
  rw [hbefore.1, List.length_append]
  omega

theorem within_after {α : Type} {result : Except Rejection (α × Cursor)} {next : α → Cursor → Walk}
    (h : ∀ x d, result = .ok (x, d) → (next x d).Within c₀ limit) :
    (after result next).Within c₀ limit := by
  cases result with
  | error r => trivial
  | ok p => exact h p.1 p.2 rfl

/-- A round of the loop of a chain takes its connective. -/
theorem within_goOn (h : Bounded c₀ limit c callers)
    (hrounds : others.length + c.rest.length ≤ c₀.rest.length)
    (hlimit : (.next connective n first others :: callers).countP Caller.isExpression + n ≤ limit) :
    (goOn connective n first others c callers).Within c₀ limit := by
  unfold goOn
  split
  · rename_i hat
    have hp := Cursor.isAt_iff.1 hat
    obtain ⟨hplace, hfits⟩ := h.move hp
    -- the round is paid for by the connective
    have hless := hp.length_lt (List.cons_ne_nil _ _)
    refine ⟨⟨hplace, .cons ?_ hlimit hfits⟩, ?_⟩
    · simp only [Caller.rounds]
      omega
    · cases connective <;> simp only [Connective.part, Call.expressions, Call.allowance] <;> omega
  · exact h

/-- A caller that was not in its loop yet comes onto the stack. -/
theorem Bounded.push (h : Bounded c₀ limit c callers) (hrounds : caller.rounds = 0)
    (hlimit : (caller :: callers).countP Caller.isExpression + caller.allowance ≤ limit) :
    Bounded c₀ limit c (caller :: callers) := by
  refine ⟨h.1, .cons ?_ hlimit h.2⟩
  rw [hrounds, Nat.zero_add]
  exact h.left_le

/-- The expression in a group takes the place of one that could still be opened. -/
theorem within_openGroup (h : Bounded c₀ limit c callers) (hat : c.isAt (.bare "("))
    (hlimit : callers.countP Caller.isExpression + n ≤ limit) :
    (openGroup c callers n).Within c₀ limit := by
  cases n with
  | zero => trivial
  | succ n =>
    have hgroup : (.group :: callers).countP Caller.isExpression =
        callers.countP Caller.isExpression := List.countP_cons_of_neg Bool.false_ne_true
    refine ⟨(h.move (Cursor.isAt_iff.1 hat)).push rfl ?_, ?_⟩
    · simp only [hgroup, Caller.allowance]
      omega
    · simp only [hgroup, Call.expressions, Call.allowance]
      omega

theorem within_work {call : Call} (h : (reading call c callers).Within c₀ limit) :
    (work now c callers call).Within c₀ limit := by
  obtain ⟨hbounded, hlimit⟩ := h
  cases call with
  | phrase phrase n =>
    cases phrase with
    | expression =>
      have hfirst : (.first .or n :: callers).countP Caller.isExpression + n ≤ limit := by
        rw [List.countP_cons_of_pos (by rfl)]
        exact hlimit
      exact ⟨hbounded.push rfl hfirst, hfirst⟩
    | term =>
      have hfirst : (.first .and n :: callers).countP Caller.isExpression + n ≤ limit := by
        rw [List.countP_cons_of_neg Bool.false_ne_true]
        exact hlimit
      exact ⟨hbounded.push rfl hfirst, hfirst⟩
    | operand =>
      rw [work]
      split
      · rename_i hat
        exact within_openGroup hbounded hat hlimit
      · exact ⟨hbounded, Nat.le_trans (Nat.le_add_right _ _) hlimit⟩
  | condition =>
    refine within_after fun f d hf => ?_
    obtain ⟨name, -, hp⟩ := Parser.field_iff.1 hf
    exact ⟨hbounded.move hp, hlimit⟩
  | operator f =>
    refine within_after fun o d ho => ⟨hbounded.move (Parser.operator_iff.1 ho), ?_⟩
    split <;> exact hlimit
  | scalar f o =>
    refine within_after fun v d hv => ?_
    obtain ⟨token, -, -, hp⟩ := Parser.scalar_iff.1 hv
    exact hbounded.move hp
  | list f o first items =>
    simp only [work]
    split
    · rename_i token htoken
      obtain ⟨rest, hrest⟩ := List.head?_eq_some_iff.1 (Option.eq_some_of_filter_eq_some htoken)
      exact ⟨hbounded.move ((Cursor.passes_one hrest).2 ⟨rfl, rfl⟩), hlimit⟩
    · unfold endList
      split
      · trivial
      · exact hbounded

/-- **One step keeps a walk within bounds.** -/
theorem within_step (h : w.Within c₀ limit) : (step now w).Within c₀ limit := by
  cases w with
  | reading call c callers => exact within_work h
  | rejected r => trivial
  | found e c callers =>
    cases callers with
    | nil => exact h
    | cons caller callers =>
      obtain ⟨hplace, hfits⟩ := h
      cases hfits with
      | cons hrounds hlimit hfits =>
        cases caller with
        | first connective n =>
          refine within_goOn ⟨hplace, hfits⟩ ?_ hlimit
          simpa [Caller.rounds] using hrounds
        | next connective n first others =>
          refine within_goOn ⟨hplace, hfits⟩ ?_ hlimit
          simpa [Caller.rounds] using hrounds
        | group =>
          have hbounded : Bounded c₀ limit c callers := ⟨hplace, hfits⟩
          simp only [step]
          split
          · rename_i hat
            exact hbounded.move (Cursor.isAt_iff.1 hat)
          · trivial

/-- **A walk stays within bounds**, however many steps it takes. -/
theorem within_run (h : w.Within c₀ limit) (k : Nat) : ((step now)^[k] w).Within c₀ limit := by
  induction k with
  | zero => exact h
  | succ k ih =>
    rw [Function.iterate_succ_apply']
    exact within_step ih

theorem Within.expressions_le (h : w.Within c₀ limit) : w.expressions ≤ limit := by
  cases w with
  | reading call c callers => exact Nat.le_trans (Nat.le_add_right _ _) h.2
  | found e c callers => exact h.2.countP_le
  | rejected r => exact Nat.zero_le _

theorem Within.rounds_le (h : w.Within c₀ limit) :
    ∀ caller ∈ w.callers, caller.rounds ≤ c₀.rest.length := by
  cases w with
  | reading call c callers => exact h.1.2.rounds_le
  | found e c callers => exact h.2.rounds_le
  | rejected r => nofun

theorem Within.passes (h : w.Within c₀ limit) : ∀ c ∈ w.place?, ∃ used, c₀.Passes used c := by
  intro c hc
  cases w with
  | reading call d callers =>
    cases hc
    exact h.1.1
  | found e d callers =>
    cases hc
    exact h.1
  | rejected r => cases hc

end

end Walk

/-! ## Reading -/

namespace Parser

/-- **Reading goes on, and it ends.**  At every place of a token stream and at every depth of
    parentheses, whatever is read takes tokens of the stream, at least one; a list goes on up to
    the end of the tokens or to one that ends lists.  From a call of a reader the steps lead to
    what it gives, and nothing changes after that.  On the way there, the places are places of the
    stream and none is before the start, no loop over connectives is entered more often than there
    are tokens, and with no parenthesis open at the start at most 65 readers of expressions are at
    work at once. -/
theorem reading_goes_on_and_ends (now : Instant) (tokens : List Token) (start depth : Nat) :
    let c := (Cursor.start tokens).skip start
    let n := maxNesting - depth
    (∀ phrase e d, reader now n phrase c = .ok (e, d) → d.Behind tokens start) ∧
    (∀ x d, condition now c = .ok (x, d) → d.Behind tokens start) ∧
    (∀ f o, listItems f o c =
      if (list c).1 = [] then c.reject (.missingValue f o) else .ok (list c)) ∧
    (start ≤ (list c).2.index ∧ (tokens.length ≤ (list c).2.index ∨
      ∃ token, tokens[(list c).2.index]? = some token ∧ endsList token)) ∧
    ∀ phrase,
      (∃ k, ∀ m, k ≤ m → (Walk.step now)^[m] (.reading (.phrase phrase n) c []) =
        .after (reader now n phrase c) fun e d => .found e d []) ∧
      ∀ k, let w := (Walk.step now)^[k] (.reading (.phrase phrase n) c [])
        (∀ d ∈ w.place?, d = (Cursor.start tokens).skip d.index ∧ start ≤ d.index ∧
          (start ≤ tokens.length → d.index ≤ tokens.length)) ∧
        (∀ caller ∈ w.callers, caller.rounds ≤ tokens.length) ∧
        w.expressions + min depth 64 ≤ 65 := by
  intro c n
  refine ⟨fun phrase e d h => ?_, fun x d h => ?_, fun f o => listItems_eq f o c, ?_,
    fun phrase => ⟨?_, fun k => ?_⟩⟩
  · obtain ⟨used, hp, he, -⟩ := reader_eq_ok_iff.1 h
    exact hp.behind he.ne_nil
  · obtain ⟨used, hx, hp, -⟩ := condition_iff.1 h
    exact hp.behind hx.ne_nil
  · obtain ⟨used, -, -, hp, hhalts⟩ := list_passes c
    rw [hp.eq_place] at hhalts
    refine ⟨?_, Cursor.halts_skip_start hhalts⟩
    rw [hp.index_eq]
    exact Nat.le_add_right _ _
  · refine Walk.Reaches.stays (reader_reads phrase n c []) ?_
    cases reader now n phrase c <;> rfl
  · intro w
    have hbegin : (Walk.reading (.phrase phrase n) c []).Within c (n + 1) := by
      refine ⟨⟨⟨[], Cursor.passes_nil.2 rfl⟩, .nil⟩, ?_⟩
      cases phrase <;> simp only [Call.expressions, Call.allowance, List.countP_nil] <;> omega
    have hw : w.Within c (n + 1) := Walk.within_run hbegin k
    refine ⟨fun d hd => ?_, fun caller hcaller => ?_, ?_⟩
    · obtain ⟨used, hp⟩ := hw.passes d hd
      exact ⟨hp.eq_place, hp.index_eq ▸ Nat.le_add_right _ _, hp.index_le⟩
    · refine Nat.le_trans (hw.rounds_le caller hcaller) ?_
      rw [Cursor.rest_skip_start, List.length_drop]
      exact Nat.sub_le _ _
    · have hexpressions := hw.expressions_le
      have hlimit : n = 64 - depth := rfl
      omega

/-- Inside of a group, in the loop over its terms. -/
theorem reading_goes_on_and_ends_in_group :
    let tokens : List Token := [.bare "(", .bare "done", .bare "=", .bare "true", .bare "||",
      .bare "labels", .bare "not", .bare "in", .bare "a", .bare ")"]
    let c := (Cursor.start tokens).skip 1
    let x : Condition := ⟨.done, .eq, .bool true⟩
    let e : Expression := .or (.condition x) (.condition ⟨.labels, .notIn, .list ["a"]⟩)
    let w := (Walk.step ⟨0, 0⟩)^[8] (.reading (.phrase .expression 63) c [])
    (reader ⟨0, 0⟩ 63 .expression c = .ok (e, ⟨9, [.bare ")"]⟩) ∧
      (⟨9, [.bare ")"]⟩ : Cursor).Behind tokens 1) ∧
    (condition ⟨0, 0⟩ c = .ok (x, c.skip 3) ∧ (c.skip 3).Behind tokens 1) ∧
    w = .reading (.phrase .term 63) (c.skip 4) [.next .or 63 (.condition x) []] ∧
    (Caller.next .or 63 (.condition x) []).rounds ≤ tokens.length ∧
    (c.skip 4).index ≤ tokens.length ∧ w.expressions + 1 ≤ 65 := by
  intro tokens c x e w
  have hreader : reader ⟨0, 0⟩ 63 .expression c = .ok (e, ⟨9, [.bare ")"]⟩) := by rfl
  have hcondition : condition ⟨0, 0⟩ c = .ok (x, c.skip 3) := by rfl
  have hw : w = .reading (.phrase .term 63) (c.skip 4) [.next .or 63 (.condition x) []] := by rfl
  obtain ⟨hbehind, hbehind', -, -, hwalk⟩ := reading_goes_on_and_ends ⟨0, 0⟩ tokens 1 1
  obtain ⟨hplace, hrounds, hexpressions⟩ := (hwalk .expression).2 8
  refine ⟨⟨hreader, hbehind _ _ _ hreader⟩, ⟨hcondition, hbehind' _ _ hcondition⟩, hw, ?_, ?_, ?_⟩
  · refine hrounds _ ?_
    show _ ∈ w.callers
    rw [hw]
    exact List.mem_singleton_self _
  · refine (hplace (c.skip 4) ?_).2.2 (by decide)
    show _ ∈ w.place?
    rw [hw]
    rfl
  · exact hexpressions

end Parser

end TaskQuery
