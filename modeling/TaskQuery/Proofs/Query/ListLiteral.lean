/-
  TaskQuery — lists of literals in queries.

  * `Separator`: a comma with blanks around it; `literalsText` the text of literals
    with separators between them, and `listQuery` a condition with such a list;
  * `tokenize_listQuery`: a comma without a blank after it becomes the first
    character of the next literal;
  * `list_literals_read_back_iff`: the items are read back as they are exactly if after
    every comma stands a blank.
-/
import TaskQuery.Proofs.Query.Acceptance
import TaskQuery.Proofs.Query.Lexeme

namespace TaskQuery

/-! ## Texts -/

/-- A comma with blanks around it. -/
structure Separator where
  /-- The blanks before the comma. -/
  before : List Char
  /-- The blanks after the comma. -/
  after : List Char
  blank_before : ∀ c ∈ before, Text.isBlank c
  blank_after : ∀ c ∈ after, Text.isBlank c

/-- The text of a separator. -/
def Separator.text (separator : Separator) : List Char :=
  separator.before ++ ',' :: separator.after

/-- An item can stand in double quotes. -/
def Quotable (item : String) : Prop :=
  item ≠ "" ∧ '"' ∉ item.toList

/-- An item in double quotes. -/
def literalText (item : String) : List Char :=
  '"' :: (item.toList ++ ['"'])

/-- Items in double quotes, each but the first after a separator. -/
def literalsText (first : String) (others : List (Separator × String)) : List Char :=
  literalText first ++ others.flatMap fun (separator, item) => separator.text ++ literalText item

/-- The query that compares a field with a list of items. -/
def listQuery (f : Field) (o : Operator) (first : String) (others : List (Separator × String)) :
    String :=
  f.name ++ " " ++ o.symbol ++ " " ++ String.ofList (literalsText first others)

/-- The item that is read after a separator. -/
def Separator.item (separator : Separator) (item : String) : String :=
  if separator.after = [] then "," ++ item else item

/-- The tokens of a separator and the item after it. -/
def Separator.tokens (separator : Separator) (item : String) : List Token :=
  if separator.after = [] then [.literal ("," ++ item)] else [.bare ",", .literal item]

/-! ## Tokens -/

section
variable {item : String} {rest : List Char}

theorem Quotable.not_mem (h : Quotable item) : ∀ c ∈ item.toList, c ≠ '"' := by
  rintro c hc rfl
  exact h.2 hc

theorem Quotable.toList_ne_nil (h : Quotable item) : item.toList ≠ [] := by
  intro hi
  exact h.1 (String.toList_inj.1 hi)

theorem tokensOf_literalText (h : Quotable item) :
    tokensOf (literalText item ++ rest) = .literal item :: tokensOf rest := by
  have hliteral := (tokensOf_literal (Or.inl rfl) h.toList_ne_nil h.not_mem rest).2
  simpa [literalText] using hliteral

/-- Up to its comma, a separator leaves just the comma pending. -/
theorem run_before (separator : Separator) {text : List Char} :
    Scan.start.run (separator.before ++ ',' :: text) = (Scan.run ⟨[], [','], none⟩ text) := by
  rw [Scan.run_append, Scan.run_blanks rfl rfl separator.blank_before]
  rfl

theorem tokensOf_separator (separator : Separator) (h : Quotable item) :
    tokensOf (separator.text ++ (literalText item ++ rest)) =
      separator.tokens item ++ tokensOf rest := by
  rw [Separator.text, List.append_assoc, List.cons_append, tokensOf, run_before, Separator.tokens]
  cases hafter : separator.after with
  | nil =>
    rw [List.nil_append, Scan.run_append, literalText, Scan.run_literal (Or.inl rfl) rfl h.not_mem,
      Scan.finish_run_of_pending_nil rfl rfl]
    simp [Scan.flush, String.ofList_cons]
  | cons c blanks =>
    have hblank : ∀ d ∈ c :: blanks, Text.isBlank d := hafter ▸ separator.blank_after
    rw [List.cons_append, Scan.run_cons, Scan.step_blank rfl (hblank c List.mem_cons_self),
      Scan.run_append, Scan.run_blanks rfl rfl fun d hd => hblank d (List.mem_cons_of_mem _ hd),
      Scan.finish_run_of_pending_nil rfl rfl, tokensOf_literalText h]
    rfl

variable {first : String} {others : List (Separator × String)}

theorem tokensOf_literalsText
    (hfirst : Quotable first) (hothers : ∀ p ∈ others, Quotable p.2) :
    tokensOf (literalsText first others) =
      .literal first :: others.flatMap fun (separator, item) => separator.tokens item := by
  rw [literalsText, tokensOf_literalText hfirst]
  congr 1
  clear hfirst
  induction others with
  | nil => rfl
  | cons p others ih =>
    rw [List.flatMap_cons, List.flatMap_cons, List.append_assoc,
      tokensOf_separator p.1 (hothers p List.mem_cons_self),
      ih fun q hq => hothers q (List.mem_cons_of_mem _ hq)]

/-- **The tokens of a list of literals**, with a comma in front of each item that
    follows its separator without a blank. -/
theorem tokenize_listQuery {f : Field} {o : Operator}
    (hfirst : Quotable first) (hothers : ∀ p ∈ others, Quotable p.2) :
    tokenize (listQuery f o first others) = .bare f.name :: (o.tokens ++
      .literal first :: others.flatMap fun (separator, item) => separator.tokens item) := by
  have htext : (listQuery f o first others).toList =
      f.name.toList ++ ' ' :: (o.symbol.toList ++ ' ' :: literalsText first others) := by
    simp [listQuery]
  rw [tokenize_eq, htext, tokensOf_condition, tokensOf_literalsText hfirst hothers]

/-! ## Items -/

theorem Separator.endsList_tokens (separator : Separator) :
    ∀ token ∈ separator.tokens item, Parser.endsList token = false := by
  unfold Separator.tokens
  split <;> simp [Parser.endsList]

theorem Separator.itemsOf_tokens (separator : Separator) :
    (separator.tokens item).flatMap Parser.itemsOf = [separator.item item] := by
  have hcomma : Parser.itemsOf (.bare ",") = [] := by decide
  unfold Separator.tokens Separator.item
  split <;> simp [hcomma]

theorem itemsOf_others :
    (others.flatMap fun (separator, item) => separator.tokens item).flatMap Parser.itemsOf =
      others.map fun (separator, item) => separator.item item := by
  induction others with
  | nil => rfl
  | cons p others ih =>
    rw [List.flatMap_cons, List.flatMap_append, p.1.itemsOf_tokens, ih]
    rfl

theorem itemsOf_literals :
    (.literal first :: others.flatMap fun (separator, item) => separator.tokens item).flatMap
      Parser.itemsOf = first :: others.map fun (separator, item) => separator.item item := by
  rw [List.flatMap_cons, itemsOf_others]
  rfl

/-- A list of literals is a condition with the items that are read. -/
theorem derivesCondition_listQuery (now : Instant) {f : Field} {o : Operator}
    (ho : o.takesList = true) (hfirst : Quotable first) (hothers : ∀ p ∈ others, Quotable p.2) :
    DerivesCondition now (tokenize (listQuery f o first others))
      ⟨f, o, .list (first :: others.map fun (separator, item) => separator.item item)⟩ := by
  rw [tokenize_listQuery hfirst hothers, ← itemsOf_literals]
  refine .list rfl ho ?_ ?_
  · intro token ht
    rcases List.mem_cons.1 ht with rfl | ht
    · exact Parser.endsList_literal first
    · obtain ⟨p, -, hp⟩ := List.mem_flatMap.1 ht
      exact p.1.endsList_tokens token hp
  · rw [itemsOf_literals]
    exact List.cons_ne_nil _ _

theorem Separator.item_eq_self_iff (separator : Separator) :
    separator.item item = item ↔ separator.after ≠ [] := by
  unfold Separator.item
  split
  · rename_i hafter
    refine iff_of_false (fun h => ?_) fun hne => hne hafter
    have hlength := congrArg String.length h
    simp at hlength
  · rename_i hafter
    exact iff_of_true rfl hafter

end

/-- **Lists of literals in double quotes are read**, with `in` and with `not in`, whatever
    stands in the quotes; and they are read back as they are exactly if after every
    comma stands a blank.  An item that follows its comma at once is read with the
    comma in front. -/
theorem list_literals_read_back_iff (f : Field) {o : Operator} (ho : o.takesList = true)
    {first : String} {others : List (Separator × String)} (hfirst : Quotable first)
    (hothers : ∀ p ∈ others, Quotable p.2) (now : Instant) :
    parseQuery (listQuery f o first others) now = .ok (some (.condition ⟨f, o,
      .list (first :: others.map fun (separator, item) => separator.item item)⟩)) ∧
    (parseQuery (listQuery f o first others) now = .ok (some (.condition ⟨f, o,
      .list (first :: others.map Prod.snd)⟩)) ↔ ∀ p ∈ others, p.1.after ≠ []) := by
  have hread : parseQuery (listQuery f o first others) now = .ok (some (.condition ⟨f, o,
      .list (first :: others.map fun (separator, item) => separator.item item)⟩)) := by
    have hx := derivesCondition_listQuery now (f := f) ho hfirst hothers
    refine parseQuery_eq_some_iff.2 ⟨?_, .term (.operand (.condition hx))⟩
    rw [hx.countP_joins]
    decide
  refine ⟨hread, ?_⟩
  rw [hread]
  simp only [Except.ok.injEq, Option.some.injEq, Expression.condition.injEq, Condition.mk.injEq,
    Literal.list.injEq, List.cons.injEq, true_and, List.map_inj_left, Separator.item_eq_self_iff]

/-- Three items, a comma and a quote of the other kind among them. -/
theorem list_literals_read_back_spaced :
    parseQuery "labels not in \"x, y\", \"it's\"\t,\n \"z\"" ⟨0, 0⟩ =
      .ok (some (.condition ⟨.labels, .notIn, .list ["x, y", "it's", "z"]⟩)) := by
  have hspace : ∀ c ∈ [' '], Text.isBlank c := List.forall_mem_singleton.2 (by decide)
  have htab : ∀ c ∈ ['\t'], Text.isBlank c := List.forall_mem_singleton.2 (by decide)
  have hline : ∀ c ∈ ['\n', ' '], Text.isBlank c := List.forall_mem_cons.2 ⟨by decide, hspace⟩
  have hothers : ∀ p ∈ [((⟨[], [' '], by simp, hspace⟩ : Separator), "it's"),
      (⟨['\t'], ['\n', ' '], htab, hline⟩, "z")], Quotable p.2 := by
    simp [Quotable]
  have hfirst : Quotable "x, y" := by simp [Quotable]
  exact (list_literals_read_back_iff .labels (o := .notIn) rfl hfirst hothers ⟨0, 0⟩).2.2 (by simp)

/-- Without a blank after it, a comma is read as part of the second item. -/
theorem list_literals_keep_comma :
    parseQuery "labels in \"a\",\"b\"" ⟨0, 0⟩ =
        .ok (some (.condition ⟨.labels, .isIn, .list ["a", ",b"]⟩)) ∧
      parseQuery "labels in \"a\",\"b\"" ⟨0, 0⟩ ≠
        .ok (some (.condition ⟨.labels, .isIn, .list ["a", "b"]⟩)) := by
  have hread : parseQuery "labels in \"a\",\"b\"" ⟨0, 0⟩ =
      .ok (some (.condition ⟨.labels, .isIn, .list ["a", ",b"]⟩)) := by rfl
  refine ⟨hread, fun h => ?_⟩
  rw [hread] at h
  simp at h

end TaskQuery
