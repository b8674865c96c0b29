/-
  TaskQuery — the field that is suggested for an unknown one.

  * `Field.IsNearestOf word fields f`: of some fields none has a smaller distance to a word, and
    none that stands earlier has the same; by `IsNearestOf.unique` there is one such field at most;
  * `IsNearestOf.next`: the search keeps to it with every field that it looks at; so
    `isNearestOf_nearestField`: it finds the nearest of all fields;
  * `suggestField_eq_some_iff` and `suggestField_eq_none_iff`: this field is suggested if it is
    near, for every word that is not the name of a field;
  * `suggests_nearest_field`: which field is suggested when a query is rejected.
-/
import TaskQuery.Proofs.Query.Report
import TaskQuery.Proofs.Text.EditDistance

namespace TaskQuery

variable {word : String} {fields : List Field} {f g : Field}

/-! ## The nearest field -/

namespace Field

/-- The first of some fields that has the least distance to a word. -/
def IsNearestOf (word : String) (fields : List Field) (f : Field) : Prop :=
  ∃ front back, fields = front ++ f :: back ∧ (∀ g ∈ front, f.distance word < g.distance word) ∧
    ∀ g ∈ back, f.distance word ≤ g.distance word

theorem IsNearestOf.le (h : f.IsNearestOf word fields) (hg : g ∈ fields) :
    f.distance word ≤ g.distance word := by
  obtain ⟨front, back, rfl, hfront, hback⟩ := h
  rcases List.mem_append.1 hg with hg | hg
  · exact Nat.le_of_lt (hfront g hg)
  · rcases List.mem_cons.1 hg with rfl | hg
    · exact Nat.le_refl _
    · exact hback g hg

theorem IsNearestOf.mem (h : f.IsNearestOf word fields) : f ∈ fields := by
  obtain ⟨front, back, rfl, -⟩ := h
  exact List.mem_append_right front List.mem_cons_self

/-- The nearest field is the first one at its distance. -/
theorem IsNearestOf.find?_eq (h : f.IsNearestOf word fields) :
    fields.find? (fun g => g.distance word = f.distance word) = some f := by
  obtain ⟨front, back, rfl, hfront, -⟩ := h
  refine List.find?_eq_some_iff_append.2 ⟨decide_eq_true rfl, front, back, rfl, fun g hg => ?_⟩
  simpa using Nat.ne_of_gt (hfront g hg)

/-- There is one nearest field at most. -/
theorem IsNearestOf.unique (hf : f.IsNearestOf word fields) (hg : g.IsNearestOf word fields) :
    f = g := by
  have hsame : f.distance word = g.distance word := Nat.le_antisymm (hf.le hg.mem) (hg.le hf.mem)
  have hfind := hf.find?_eq
  rw [hsame, hg.find?_eq] at hfind
  exact (Option.some.inj hfind).symm

/-- The field that the search keeps to when it looks at one more. -/
def nearer (word : String) (best f : Field) : Field :=
  if f.distance word < best.distance word then f else best

theorem IsNearestOf.next (h : g.IsNearestOf word fields) (f : Field) :
    (nearer word g f).IsNearestOf word (fields ++ [f]) := by
  unfold nearer
  split
  · rename_i hlt
    refine ⟨fields, [], rfl, fun x hx => ?_, List.forall_mem_nil _⟩
    exact Nat.lt_of_lt_of_le hlt (h.le hx)
  · rename_i hnot
    obtain ⟨front, back, rfl, hfront, hback⟩ := h
    refine ⟨front, back ++ [f], by simp, hfront, ?_⟩
    exact List.forall_mem_append.2 ⟨hback, List.forall_mem_singleton.2 (Nat.le_of_not_lt hnot)⟩

/-- By induction on the fields that are left. -/
theorem IsNearestOf.foldl (h : g.IsNearestOf word fields) (more : List Field) :
    (more.foldl (nearer word) g).IsNearestOf word (fields ++ more) := by
  induction more generalizing g fields with
  | nil => rwa [List.append_nil]
  | cons f more ih =>
    rw [List.foldl_cons, List.append_cons]
    exact ih (h.next f)

/-- **The search finds the nearest of all fields.** -/
theorem isNearestOf_nearestField (word : String) : (nearestField word).IsNearestOf word all := by
  have hsearch : nearestField word = (.done :: all.tail).foldl (nearer word) .done := rfl
  have hfirst : nearer word .done .done = .done := if_neg (Nat.lt_irrefl _)
  have hstart : IsNearestOf word [.done] .done :=
    ⟨[], [], rfl, List.forall_mem_nil _, List.forall_mem_nil _⟩
  rw [hsearch, List.foldl_cons, hfirst]
  exact hstart.foldl all.tail

end Field

/-! ## Suggestions -/

/-- The nearest field is suggested if it is near: a word that is not the name of a field is not
    that of the nearest one. -/
theorem suggestField_eq (hword : ∀ f : Field, word ≠ f.name) : suggestField word =
    if (nearestField word).distance word ≤ maxSuggestionDistance then some (nearestField word)
    else none := by
  have hname : (nearestField word).name ≠ word := (hword _).symm
  simp only [suggestField, hname, ne_eq, not_false_eq_true, and_true]

theorem suggestField_eq_some_iff (hword : ∀ f : Field, word ≠ f.name) : suggestField word = some f ↔
    f.distance word ≤ maxSuggestionDistance ∧ f.IsNearestOf word Field.all := by
  have hnearest := Field.isNearestOf_nearestField word
  rw [suggestField_eq hword, Option.ite_none_right_eq_some, Option.some.injEq]
  constructor
  · rintro ⟨hle, rfl⟩
    exact ⟨hle, hnearest⟩
  · rintro ⟨hle, hf⟩
    rw [hnearest.unique hf]
    exact ⟨hle, rfl⟩

theorem suggestField_eq_none_iff (hword : ∀ f : Field, word ≠ f.name) : suggestField word = none ↔
    ∀ f : Field, maxSuggestionDistance < f.distance word := by
  rw [suggestField_eq hword, ite_eq_right_iff]
  constructor
  · intro h f
    have hfar : maxSuggestionDistance < (nearestField word).distance word :=
      Nat.lt_of_not_le fun hle => Option.some_ne_none _ (h hle)
    exact Nat.lt_of_lt_of_le hfar ((Field.isNearestOf_nearestField word).le f.mem_all)
  · intro h hle
    exact absurd hle (Nat.not_le.2 (h _))

/-- **The field that is suggested for an unknown one is the nearest, or none is near.**  Let a
    query be rejected for an unknown field.  It is at a token that is the name of no field.
    The distance of a field is the least number of edits between the word and its name, both
    in lower case.  A field is suggested exactly if its distance is three at most, no
    field has a smaller one, and none that is listed earlier has the same; and none is
    suggested exactly if all distances are four at least. -/
theorem suggests_nearest_field {query : String} {now : Instant} {suggestion : Option Field}
    {position : Nat}
    (h : parseQuery query now = .error ⟨.unknownField word suggestion, position⟩) :
    (∃ token, (tokenize query)[position]? = some token ∧ token.text = word) ∧
    (∀ f : Field, word ≠ f.name) ∧
    (∀ f : Field, IsLeast
      {n | Text.Edits n (Text.lowercase word).toList (Text.lowercase f.name).toList}
      (f.distance word)) ∧
    (∀ f, suggestion = some f ↔ f.distance word ≤ 3 ∧ f.IsNearestOf word Field.all) ∧
    (suggestion = none ↔ ∀ f : Field, 4 ≤ f.distance word) := by
  obtain ⟨hcause, -⟩ | ⟨-, used, d, hp, hfault, hposition⟩ :=
    parseTokens_eq_error_iff.1 (parseQuery_rejects_iff.1 h).2
  · cases hcause
  obtain ⟨htokens, hindex⟩ := Cursor.passes_start_iff.1 hp
  have hlexical : ∀ token ∈ d.rest, token.Lexical := fun token ht =>
    lexical_of_mem_tokenize (htokens ▸ List.mem_append_right used ht)
  obtain ⟨token, more, hrest, hword, hname, hsuggestion⟩ := hfault.describes hlexical
  rw [hsuggestion]
  refine ⟨⟨token, ?_, hword.symm⟩, hname, fun f => Text.editDistance_isLeast _ _,
    fun f => suggestField_eq_some_iff hname, suggestField_eq_none_iff hname⟩
  rw [htokens, hrest, show position = used.length from hposition.trans hindex]
  simp

/-- Two fields are at the greatest distance that counts, and the first of them is suggested. -/
theorem suggests_nearest_field_first :
    parseQuery "(dat = now)" ⟨0, 0⟩ = .error ⟨.unknownField "dat" (some .done), 1⟩ ∧
      Field.distance "dat" .done = 3 ∧ Field.distance "dat" .doneAt = 3 ∧
      Field.IsNearestOf "dat" Field.all .done := by
  have herror : parseQuery "(dat = now)" ⟨0, 0⟩ = .error ⟨.unknownField "dat" (some .done), 1⟩ := by
    decide +kernel
  obtain ⟨-, -, -, hsome, -⟩ := suggests_nearest_field herror
  exact ⟨herror, by decide +kernel, by decide +kernel, ((hsome .done).1 rfl).2⟩

end TaskQuery
