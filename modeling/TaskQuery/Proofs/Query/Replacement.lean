/-
  TaskQuery — a literal in the place of another.

  * `Expression.Replaced s s' e e'`: `e'` is `e` with `s'` for one text or item `s`;
  * `ReadsField now tokens i`: the token at index `i` is read as a field;
  * `DerivesCondition.replace_literal` and `Grammatical.replace_literal`: any other
    literal can stand where one is, unless it is read as a field.
-/
import TaskQuery.Proofs.Query.Gap

namespace TaskQuery

/-! ## Trees that differ in one text -/

/-- The second tree is the first with `s'` for one text, or for one item of a list, that
    is `s`: the trees have the same shape, fields, operators and other values. -/
inductive Expression.Replaced (s s' : String) : Expression → Expression → Prop
  | text {f o} : Replaced s s' (.condition ⟨f, o, .text s⟩) (.condition ⟨f, o, .text s'⟩)
  | item {f o front back} : Replaced s s' (.condition ⟨f, o, .list (front ++ s :: back)⟩)
      (.condition ⟨f, o, .list (front ++ s' :: back)⟩)
  | left {connective left left' right} : Replaced s s' left left' →
      Replaced s s' (.joined connective left right) (.joined connective left' right)
  | right {connective left right right'} : Replaced s s' right right' →
      Replaced s s' (.joined connective left right) (.joined connective left right')

variable {now : Instant} {phrase : Phrase} {n : Nat} {before after front back tokens : List Token}
  {gap : Gap} {fill : Expression → Expression} {e e' : Expression} {x : Condition} {s s' : String}

/-- What fills a gap changes nothing around it. -/
theorem Around.replaced (h : Around now phrase n before gap after fill)
    (he : e.Replaced s s' e') : (fill e).Replaced s s' (fill e') := by
  induction h with
  | here => exact he
  | group _ ih | operand _ ih | term _ ih => exact ih
  | and => exact .right he
  | andMore _ _ ih | orMore _ _ ih => exact .left ih
  | or _ _ ih => exact .right ih

/-- Another text makes another tree. -/
theorem Expression.Replaced.ne (h : e.Replaced s s' e') (hs : s ≠ s') : e ≠ e' := by
  induction h with
  | text => simpa using hs
  | item => simpa using hs
  | left _ ih | right _ ih => simpa using ih

/-! ## Literals of a query -/

theorem Operator.literal_not_mem_tokens (o : Operator) : Token.literal s ∉ o.tokens := by
  cases o <;> simp [tokens]

/-- **Any other literal can stand in a condition** after its field. -/
theorem DerivesCondition.replace_literal (hfront : front ≠ [])
    (h : DerivesCondition now (front ++ .literal s :: back) x) (s' : String) :
    ∃ x', DerivesCondition now (front ++ .literal s' :: back) x' ∧
      Expression.Replaced s s' (.condition x) (.condition x') := by
  obtain ⟨first, front, rfl⟩ := List.exists_cons_of_ne_nil hfront
  -- after the field, the literal does not stand in the operator
  have hafter {o : Operator} {rest : List Token} (h : front ++ .literal s :: back = o.tokens ++ rest) :
      ∃ mid, front = o.tokens ++ mid ∧ rest = mid ++ .literal s :: back := by
    refine (eq_append_or_eq_append h).resolve_left ?_
    rintro ⟨mid, htokens, -⟩
    refine o.literal_not_mem_tokens (s := s) ?_
    rw [htokens]
    exact List.mem_append_right _ List.mem_cons_self
  generalize htokens : first :: front ++ .literal s :: back = tokens at h
  cases h with
  | scalar hname ho hvalue =>
    obtain ⟨rfl, hrest⟩ := List.cons.inj htokens
    obtain ⟨mid, rfl, hmid⟩ := hafter hrest
    obtain ⟨rfl, hliteral⟩ := List.append_eq_singleton_iff.1 hmid.symm |>.resolve_right (by simp)
    obtain ⟨rfl, rfl⟩ := List.cons.inj hliteral
    refine ⟨_, ?_, .text⟩
    rw [List.append_nil]
    exact .scalar hname ho (Token.literal_not_structural s')
  | @list _ f o _ hname ho hitems hne =>
    obtain ⟨rfl, hrest⟩ := List.cons.inj htokens
    obtain ⟨mid, rfl, rfl⟩ := hafter hrest
    have hflat (text : String) : (mid ++ Token.literal text :: back).flatMap Parser.itemsOf =
        mid.flatMap Parser.itemsOf ++ text :: back.flatMap Parser.itemsOf := by
      rw [List.flatMap_append, List.flatMap_cons, Parser.itemsOf_literal, List.singleton_append]
    obtain ⟨hmid, hliteral⟩ := List.forall_mem_append.1 hitems
    have hitems' : ∀ token ∈ mid ++ Token.literal s' :: back, Parser.endsList token = false :=
      List.forall_mem_append.2
        ⟨hmid, List.forall_mem_cons.2 ⟨Parser.endsList_literal s', (List.forall_mem_cons.1 hliteral).2⟩⟩
    refine ⟨⟨f, o, .list (mid.flatMap Parser.itemsOf ++ s' :: back.flatMap Parser.itemsOf)⟩, ?_, ?_⟩
    · rw [List.cons_append, List.append_assoc, ← hflat]
      exact .list hname ho hitems' (by simp [hflat])
    · rw [hflat]
      exact .item

/-! ## Fields -/

/-- The token at index `i` is read as a field: it begins a condition of the query. -/
def ReadsField (now : Instant) (tokens : List Token) (i : Nat) : Prop :=
  ∃ before gap after fill used x, Around now .expression maxNesting before gap after fill ∧
    DerivesCondition now used x ∧ tokens = before ++ (used ++ after) ∧ before.length = i

/-- What is read as a field is the name of one. -/
theorem ReadsField.name {i : Nat} (h : ReadsField now tokens i) :
    ∃ token f, tokens[i]? = some token ∧ token.text = Field.name f := by
  obtain ⟨before, gap, after, fill, used, x, -, hx, rfl, rfl⟩ := h
  cases hx with
  | scalar hname | list hname => exact ⟨_, _, by simp, hname⟩

/-- The last token of a query is no field. -/
theorem ReadsField.succ_lt {i : Nat} (h : ReadsField now tokens i) : i + 1 < tokens.length := by
  obtain ⟨before, gap, after, fill, used, x, -, hx, rfl, rfl⟩ := h
  have := hx.one_lt_length
  simp only [List.length_append]
  omega

/-- **Any other literal can stand in a query** where one is that is not read as a field. -/
theorem Grammatical.replace_literal (h : Grammatical now (front ++ .literal s :: back) e)
    (hfield : ¬ ReadsField now (front ++ .literal s :: back) front.length) (s' : String) :
    ∃ e', Grammatical now (front ++ .literal s' :: back) e' ∧ e.Replaced s s' e' := by
  obtain ⟨hcount, hderives⟩ := h
  obtain ⟨before, gap, after, fill, used, more, x, haround, hx, rfl, rfl, rfl⟩ :=
    hderives.around (Token.literal_not_structural s)
  have hused : used ≠ [] := by
    rintro rfl
    exact hfield ⟨before, gap, after, fill, _, x, haround, hx, by simp, by simp⟩
  obtain ⟨x', hx', hreplaced⟩ := hx.replace_literal hused s'
  have hderives' := haround.derives (Gap.fits_condition hx')
  refine ⟨fill (.condition x'), ⟨?_, ?_⟩, haround.replaced hreplaced⟩
  · simpa [List.countP_cons] using hcount
  · simpa only [List.append_assoc, List.cons_append] using hderives'

end TaskQuery
