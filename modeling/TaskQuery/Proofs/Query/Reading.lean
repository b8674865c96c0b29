/-
  TaskQuery — what the readers of conditions and chains read.

  A reader goes from a place in a token stream to a later one, over the tokens
  in between.

  * `Cursor.Passes c used d`: the tokens `used` stand between the places `c` and
    `d`; `Cursor.Halts c`: at `c` stands what ends a list;
  * `Cursor.Bounds c tokens e` and `Cursor.Stops c phrase`: at `c` stands nothing with
    which the phrase before it goes on;
  * `Parser.list c` are the items of the list that begins at `c`, and the place where it
    ends;
  * `field_iff`, `operator_iff`, `scalar_iff`, `listItems_iff` and
    `condition_iff`: each reader accepts exactly the tokens of its phrase, and a
    list goes on as far as it can;
  * `continueTerm` and `continueExpression` read on in a chain of `&&` or `||`;
    `continueTerm_eq` and `continueExpression_eq` go on by one link.
-/
import TaskQuery.Proofs.Query.Grammar

namespace TaskQuery

/-! ## Places -/

namespace Cursor

/-- The tokens `used` stand between the places `c` and `d`. -/
def Passes (c : Cursor) (used : List Token) (d : Cursor) : Prop :=
  c.rest = used ++ d.rest ∧ d.index = c.index + used.length

/-- What ends a list stands here: a connective, a closing parenthesis, or the end
    of the query. -/
def Halts (c : Cursor) : Prop :=
  ∀ token ∈ c.rest.head?, Parser.endsList token

variable {c d e : Cursor} {token : Token} {used more rest : List Token}

theorem passes_nil : c.Passes [] d ↔ d = c := by
  cases c
  cases d
  simp only [Passes, List.nil_append, List.length_nil, Nat.add_zero, mk.injEq]
  exact ⟨fun h => ⟨h.2, h.1.symm⟩, fun h => ⟨h.2.symm, h.1⟩⟩

theorem passes_start {tokens : List Token} : (start tokens).Passes tokens ⟨tokens.length, []⟩ :=
  ⟨(List.append_nil tokens).symm, (Nat.zero_add _).symm⟩

/-- A place in a token stream has as many tokens before it as its index says. -/
theorem passes_start_iff {tokens : List Token} :
    (start tokens).Passes used d ↔ tokens = used ++ d.rest ∧ d.index = used.length := by
  rw [Passes, start, Nat.zero_add]

theorem skip_eq (h : c.rest = used ++ rest) : c.skip used.length = ⟨c.index + used.length, rest⟩ := by
  rw [skip, h, List.drop_left]

theorem skip_skip (m n : Nat) : (c.skip m).skip n = c.skip (m + n) := by
  simp only [skip, List.drop_drop, Nat.add_assoc]

@[simp] theorem index_skip_start (tokens : List Token) (i : Nat) :
    ((start tokens).skip i).index = i :=
  Nat.zero_add i

theorem rest_skip_start (tokens : List Token) (i : Nat) :
    ((start tokens).skip i).rest = tokens.drop i :=
  rfl

theorem passes_skip (h : c.rest = used ++ rest) : c.Passes used (c.skip used.length) := by
  rw [skip_eq h]
  exact ⟨h, rfl⟩

theorem Passes.eq_skip (h : c.Passes used d) : d = c.skip used.length := by
  cases d
  simp only [skip, h.1, List.drop_left, mk.injEq, and_true]
  exact h.2

theorem Passes.index_eq {tokens : List Token} {i : Nat} (h : ((start tokens).skip i).Passes used d) :
    d.index = i + used.length := by
  rw [h.2, index_skip_start]

/-- A place further on in a token stream is a place of that stream. -/
theorem Passes.eq_place {tokens : List Token} {i : Nat} (h : ((start tokens).skip i).Passes used d) :
    d = (start tokens).skip d.index := by
  rw [h.index_eq, ← skip_skip]
  exact h.eq_skip

theorem Halts.takeWhile (h : c.Halts) : c.rest.takeWhile (fun t => !Parser.endsList t) = [] := by
  cases hr : c.rest with
  | nil => rfl
  | cons token rest =>
    have := h token (by rw [hr]; rfl)
    rw [List.takeWhile_cons_of_neg (by simpa using this)]

theorem Passes.trans (h : c.Passes used d) (h' : d.Passes more e) : c.Passes (used ++ more) e := by
  refine ⟨by rw [h.1, h'.1, List.append_assoc], ?_⟩
  rw [h'.2, h.2, List.length_append, Nat.add_assoc]

/-- The place between two runs of tokens. -/
theorem Passes.between (h : c.Passes (used ++ more) e) :
    ∃ d, c.Passes used d ∧ d.Passes more e := by
  have hr : c.rest = used ++ (more ++ e.rest) := by rw [h.1, List.append_assoc]
  refine ⟨c.skip used.length, passes_skip hr, ?_, ?_⟩
  · rw [skip, hr, List.drop_left]
  · rw [h.2, skip, List.length_append, Nat.add_assoc]

theorem Passes.between_one (h : c.Passes (token :: more) e) :
    ∃ d, c.Passes [token] d ∧ d.Passes more e := by
  rw [← List.singleton_append] at h
  exact h.between

theorem Passes.between_cons (h : c.Passes (token :: (used ++ more)) e) :
    ∃ c', c.Passes [token] c' ∧ ∃ d, c'.Passes used d ∧ d.Passes more e := by
  obtain ⟨c', h', h⟩ := h.between_one
  exact ⟨c', h', h.between⟩

theorem Passes.eq_skip_one (h : c.Passes [token] d) : d = c.skip 1 :=
  h.eq_skip

theorem Passes.halts (h : c.Passes (token :: used) d) (ht : Parser.endsList token) : c.Halts := by
  intro first hf
  rw [h.1, List.cons_append, List.head?_cons] at hf
  cases hf
  exact ht

theorem Passes.isAt_eq_false (h : c.Passes (token :: used) d) {other : Token}
    (hne : token ≠ other) : c.isAt other = false := by
  simp [isAt, h.1, hne]

theorem Passes.length_lt (h : c.Passes used d) (hne : used ≠ []) :
    d.rest.length < c.rest.length := by
  have := List.length_pos_iff.2 hne
  rw [h.1, List.length_append]
  omega

/-- A list is read up to a place where it halts. -/
theorem Passes.takeWhile (h : c.Passes used d)
    (hused : ∀ token ∈ used, Parser.endsList token = false) (hd : d.Halts) :
    c.rest.takeWhile (fun t => !Parser.endsList t) = used := by
  rw [h.1, List.takeWhile_append_of_pos (by simpa using hused), hd.takeWhile, List.append_nil]

theorem passes_one (h : c.rest = token :: rest) {name : Token} :
    c.Passes [name] d ↔ name = token ∧ d = c.skip 1 := by
  constructor
  · intro hp
    have := hp.1
    rw [h, List.singleton_append, List.cons.injEq] at this
    exact ⟨this.1.symm, hp.eq_skip⟩
  · rintro ⟨rfl, rfl⟩
    exact ⟨by simp [skip, h], rfl⟩

theorem isAt_iff : c.isAt token = true ↔ c.Passes [token] (c.skip 1) := by
  cases hr : c.rest with
  | nil => simp [isAt, Passes, hr]
  | cons first rest => simp [isAt, passes_one hr, hr, eq_comm]

theorem isAt_eq_true_iff : c.isAt token = true ↔ c.rest.head? = some token :=
  decide_eq_true_iff

theorem isAt_eq_false_iff : c.isAt token = false ↔ c.rest.head? ≠ some token :=
  decide_eq_false_iff_not

theorem isAt_of_passes (h : c.Passes (token :: used) d) : c.isAt token = true := by
  simp [isAt, h.1]

end Cursor

/-! ## Where phrases end -/

/-- The last condition of an expression. -/
def Expression.last : Expression → Condition
  | condition x => x
  | joined _ _ right => right.last

namespace Cursor

/-- If the tokens before a place end in a list outside of parentheses, the list is
    over there. -/
def Bounds (c : Cursor) (tokens : List Token) (e : Expression) : Prop :=
  tokens.getLast? ≠ some (.bare ")") → e.last.operator.takesList → c.Halts

/-- No connective stands here with which a phrase of a kind goes on. -/
def Stops (c : Cursor) : Phrase → Prop
  | .operand => True
  | .term => c.isAt (.bare "&&") = false
  | .expression => c.isAt (.bare "&&") = false ∧ c.isAt (.bare "||") = false

variable {c : Cursor} {tokens more : List Token} {e e' : Expression} {connective : Connective}

theorem Halts.bounds (h : c.Halts) : c.Bounds tokens e :=
  fun _ _ => h

theorem bounds_group : c.Bounds (.bare "(" :: (tokens ++ [.bare ")"])) e := by
  intro hlast
  rw [← List.cons_append, List.getLast?_append] at hlast
  exact absurd rfl hlast

theorem bounds_append {token : Token} (h : more ≠ []) :
    c.Bounds (tokens ++ token :: more) (.joined connective e e') ↔ c.Bounds more e' := by
  obtain ⟨last, hlast⟩ := Option.isSome_iff_exists.1 (List.getLast?_isSome.2 h)
  rw [Bounds, Bounds, List.getLast?_append, List.getLast?_cons, hlast]
  exact Iff.rfl

theorem bounds_condition {now : Instant} {x : Condition} (hx : DerivesCondition now tokens x) :
    c.Bounds tokens (.condition x) ↔ (x.operator.takesList → c.Halts) :=
  ⟨fun h => h fun hlast => hx.getLast_endsList _ hlast (by decide), fun h _ => h⟩

end Cursor

/-! ## Conditions -/

namespace Parser

variable {c d : Cursor} {now : Instant} {f : Field} {o : Operator}

theorem bind_eq_ok {x : Except ε α} {g : α → Except ε β} {b : β} :
    x >>= g = .ok b ↔ ∃ a, x = .ok a ∧ g a = .ok b := by
  cases x with
  | error e => simp [bind, Except.bind]
  | ok a => simp [bind, Except.bind]

theorem bind_eq_error_iff {x : Except ε α} {g : α → Except ε β} {r : ε} :
    x >>= g = .error r ↔ x = .error r ∨ ∃ a, x = .ok a ∧ g a = .error r := by
  cases x with
  | error r' => simp [bind, Except.bind]
  | ok a => simp [bind, Except.bind]

theorem bind_eq_error {x : Except ε α} {g : α → Except ε β} {r : ε} (h : x = .error r) :
    x >>= g = .error r :=
  bind_eq_error_iff.2 (Or.inl h)

/-- **Fields.** -/
theorem field_iff : field c = .ok (f, d) ↔ ∃ name, name.text = f.name ∧ c.Passes [name] d := by
  cases hr : c.rest with
  | nil => simp [field, Cursor.reject, Cursor.Passes, hr]
  | cons name rest =>
    simp only [field, hr, Cursor.passes_one hr]
    cases hf : Field.ofName? name.text with
    | none =>
      simp only [Cursor.reject, reduceCtorEq, false_iff]
      rintro ⟨_, hname, rfl, -⟩
      rw [hname, Field.ofName?_name] at hf
      cases hf
    | some g =>
      rw [Field.ofName?_eq_some_iff] at hf
      simp only [Except.ok.injEq, Prod.mk.injEq]
      constructor
      · rintro ⟨rfl, rfl⟩
        exact ⟨name, hf, rfl, rfl⟩
      · rintro ⟨_, hname, rfl, rfl⟩
        rw [hf, ← Field.ofName?_eq_some_iff, Field.ofName?_name] at hname
        exact ⟨Option.some.inj hname, rfl⟩

/-- **Operators.** -/
theorem operator_iff : operator f c = .ok (o, d) ↔ c.Passes o.tokens d := by
  constructor
  · intro h
    unfold operator at h
    split at h
    · simp [Cursor.reject] at h
    · rename_i token rest hr
      split at h
      · rename_i hnot
        simp only [Except.ok.injEq, Prod.mk.injEq] at h
        obtain ⟨rfl, rfl⟩ := h
        obtain ⟨tail, rfl⟩ := List.head?_eq_some_iff.1 hnot.2
        rw [hnot.1] at hr
        exact ⟨by simp [Operator.tokens, Cursor.skip, hr], rfl⟩
      · split at h
        · rename_i o' ho
          split at h
          · simp [Cursor.reject] at h
          · rename_i hq
            simp only [Except.ok.injEq, Prod.mk.injEq] at h
            obtain ⟨rfl, rfl⟩ := h
            rw [not_or] at hq
            rw [Operator.tokens_of_ne hq.2, Cursor.passes_one hr]
            rw [Operator.ofSymbol?_eq_some_iff] at ho
            cases token
            simp_all
        · simp [Cursor.reject] at h
  · intro h
    by_cases ho : o = .notIn
    · subst ho
      rw [h.eq_skip]
      simp [operator, h.1, Operator.tokens]
    · rw [Operator.tokens_of_ne ho] at h
      have hs := Operator.ofSymbol?_symbol o
      simp [operator, h.1, hs, ho, Operator.symbol_ne_not, h.eq_skip]

/-- **Single values.** -/
theorem scalar_iff {v : Literal} : scalar now f o c = .ok (v, d) ↔
    ∃ token, token ∉ Token.structural ∧ v = literalOf now token ∧ c.Passes [token] d := by
  cases hr : c.rest with
  | nil => simp [scalar, Cursor.reject, Cursor.Passes, hr]
  | cons token rest =>
    simp only [scalar, hr, Cursor.passes_one hr]
    by_cases ht : token ∈ Token.structural
    · simp only [ht, if_true, Cursor.reject, reduceCtorEq, false_iff]
      rintro ⟨_, h, -, rfl, -⟩
      exact h ht
    · simp only [ht, if_false, Except.ok.injEq, Prod.mk.injEq]
      constructor
      · rintro ⟨rfl, rfl⟩
        exact ⟨token, ht, rfl, rfl, rfl⟩
      · rintro ⟨_, -, rfl, rfl, rfl⟩
        exact ⟨rfl, rfl⟩

/-- The items of the list that begins at a place, and the place where it ends. -/
def list (c : Cursor) : List String × Cursor :=
  let tokens := c.rest.takeWhile fun token => !endsList token
  (tokens.flatMap itemsOf, c.skip tokens.length)

/-- A list has to have items. -/
theorem listItems_eq (f : Field) (o : Operator) (c : Cursor) : listItems f o c =
    if (list c).1 = [] then c.reject (.missingValue f o) else .ok (list c) :=
  rfl

/-- A list goes on as far as it can. -/
theorem list_passes (c : Cursor) : ∃ used, (∀ token ∈ used, endsList token = false) ∧
    used.flatMap itemsOf = (list c).1 ∧ c.Passes used (list c).2 ∧ (list c).2.Halts := by
  have hr : c.rest = c.rest.takeWhile (fun t => !endsList t) ++ c.rest.dropWhile fun t => !endsList t :=
    List.takeWhile_append_dropWhile.symm
  refine ⟨_, fun token ht => ?_, rfl, Cursor.passes_skip hr, ?_⟩
  · have := List.all_eq_true.1 List.all_takeWhile token ht
    simpa using this
  · intro token ht
    rw [list, Cursor.skip_eq hr] at ht
    have := List.head?_dropWhile_not (fun t => !endsList t) c.rest
    rw [Option.mem_def.1 ht] at this
    simpa using this

/-- **Lists.** -/
theorem listItems_iff {items : List String} : listItems f o c = .ok (items, d) ↔
    ∃ used, (∀ token ∈ used, endsList token = false) ∧ used.flatMap itemsOf = items ∧ items ≠ [] ∧
      c.Passes used d ∧ d.Halts := by
  rw [listItems_eq]
  constructor
  · intro h
    split at h
    · simp [Cursor.reject] at h
    · rename_i hne
      obtain ⟨used, hused, hitems, hp, hd⟩ := list_passes c
      rw [Except.ok.injEq] at h
      rw [h] at hitems hne hp hd
      exact ⟨used, hused, hitems, hne, hp, hd⟩
  · rintro ⟨used, hused, rfl, hne, hp, hd⟩
    rw [list, hp.takeWhile hused hd, if_neg hne, hp.eq_skip]

/-- **Conditions.**  A list goes on as far as it can. -/
theorem condition_iff {x : Condition} : condition now c = .ok (x, d) ↔
    ∃ used, DerivesCondition now used x ∧ c.Passes used d ∧ (x.operator.takesList → d.Halts) := by
  simp only [condition, bind_eq_ok, Prod.exists, field_iff, operator_iff]
  constructor
  · rintro ⟨f, c₁, ⟨name, hname, h₁⟩, o, c₂, h₂, h⟩
    split at h
    · rename_i ho
      obtain ⟨⟨items, c₃⟩, hitems, h⟩ := bind_eq_ok.1 h
      obtain ⟨used, hused, rfl, hne, h₃, hd⟩ := listItems_iff.1 hitems
      cases h
      exact ⟨_, .list hname ho hused hne, h₁.trans (h₂.trans h₃), fun _ => hd⟩
    · rename_i ho
      obtain ⟨⟨v, c₃⟩, hv, h⟩ := bind_eq_ok.1 h
      obtain ⟨value, hvalue, rfl, h₃⟩ := scalar_iff.1 hv
      cases h
      exact ⟨_, .scalar hname (Bool.eq_false_iff.2 ho) hvalue, h₁.trans (h₂.trans h₃),
        fun ht => absurd ht ho⟩
  · rintro ⟨used, hx, hp, hd⟩
    cases hx with
    | @scalar name value f o hname ho hvalue =>
      obtain ⟨c₁, h₁, c₂, h₂, h₃⟩ := hp.between_cons
      refine ⟨f, c₁, ⟨name, hname, h₁⟩, o, c₂, h₂, ?_⟩
      rw [if_neg (by simp [ho]), bind_eq_ok]
      exact ⟨_, scalar_iff.2 ⟨value, hvalue, rfl, h₃⟩, rfl⟩
    | @list name f o items hname ho hitems hne =>
      obtain ⟨c₁, h₁, c₂, h₂, h₃⟩ := hp.between_cons
      refine ⟨f, c₁, ⟨name, hname, h₁⟩, o, c₂, h₂, ?_⟩
      rw [if_pos ho, bind_eq_ok]
      exact ⟨_, listItems_iff.2 ⟨items, hitems, rfl, hne, h₃, hd ho⟩, rfl⟩

theorem condition_advances : (condition now).Advances := by
  intro c x d h
  obtain ⟨used, hx, hp, -⟩ := condition_iff.1 h
  cases hx <;> exact hp.length_lt (List.cons_ne_nil _ _)

/-! ## Chains -/

variable {group : Parser Expression} {e : Expression}

/-- Reads on after the first part of a term: conditions after `&&`, grouped to
    the left. -/
def continueTerm (now : Instant) (e : Expression) : Parser Expression := fun c => do
  let (others, c) ← many (.bare "&&") (condition now) c
  return (others.foldl (fun e condition => .and e (.condition condition)) e, c)

/-- Reads on after the first term of an expression: terms after `||`, grouped to
    the right. -/
def continueExpression (now : Instant) (group : Parser Expression) (e : Expression) :
    Parser Expression := fun c => do
  let (others, c) ← many (.bare "||") (termWith now group) c
  return (joinTerms e others, c)

theorem termWith_eq : termWith now group c =
    (operandWith now group c >>= fun (e, c) => continueTerm now e c) :=
  rfl

theorem expressionWith_eq : expressionWith now group c =
    (termWith now group c >>= fun (e, c) => continueExpression now group e c) :=
  rfl

/-- A term goes on condition by condition. -/
theorem continueTerm_eq : continueTerm now e c =
    if c.isAt (.bare "&&") then
      condition now (c.skip 1) >>= fun (x, c) => continueTerm now (.and e (.condition x)) c
    else .ok (e, c) := by
  rw [continueTerm, many_eq condition_advances]
  split
  · cases condition now (c.skip 1) with
    | error r => rfl
    | ok p =>
      obtain ⟨x, d⟩ := p
      simp only [continueTerm, bind, Except.bind]
      cases many (.bare "&&") (condition now) d <;> rfl
  · rfl

/-- After `||` stands an expression again. -/
theorem continueExpression_eq (ht : (termWith now group).Advances) :
    continueExpression now group e c =
      if c.isAt (.bare "||") then
        expressionWith now group (c.skip 1) >>= fun (e', c) => .ok (.or e e', c)
      else .ok (e, c) := by
  rw [continueExpression, many_eq ht]
  split
  · rw [expressionWith_eq]
    cases termWith now group (c.skip 1) with
    | error r => rfl
    | ok p =>
      obtain ⟨e', d⟩ := p
      simp only [continueExpression, bind, Except.bind]
      cases many (.bare "||") (termWith now group) d with
      | error r => rfl
      | ok p => simp only [pure, Except.pure, joinTerms_cons]
  · rfl

end Parser

end TaskQuery
