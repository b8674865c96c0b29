/-
  TaskQuery — lines as text.

  * `toList_unlines`: the text of lines, from the first one on;
  * `count_unlines`: a text of lines has one line break for every line, and those within;
  * `unlines_inj`: lines without line breaks are told by their text.
-/
import TaskQuery.Display.Style
import TaskQuery.Proofs.Lists

namespace TaskQuery

theorem toList_unlines (line : String) (lines : List String) :
    (unlines (line :: lines)).toList = line.toList ++ '\n' :: (unlines lines).toList := by
  simp [unlines]

/-- A text of lines has one line break for every line, and those within the lines. -/
theorem count_unlines (lines : List String) : (unlines lines).toList.count '\n' =
    lines.length + (lines.flatMap String.toList).count '\n' := by
  induction lines with
  | nil => rfl
  | cons line lines ih =>
    rw [toList_unlines, List.count_append, List.count_cons_self, ih, List.length_cons,
      List.flatMap_cons, List.count_append]
    omega

theorem unlines_cons_ne (line : String) (lines : List String) :
    unlines (line :: lines) ≠ unlines [] := by
  intro h
  have htext := congrArg String.toList h
  rw [toList_unlines] at htext
  exact List.append_ne_nil_of_right_ne_nil _ (List.cons_ne_nil _ _) htext

/-- A line without line breaks is told from the lines behind it. -/
theorem unlines_cons_inj {line other : String} {lines others : List String}
    (hline : '\n' ∉ line.toList) (hother : '\n' ∉ other.toList)
    (h : unlines (line :: lines) = unlines (other :: others)) :
    line = other ∧ unlines lines = unlines others := by
  have hinside {line : String} (hline : '\n' ∉ line.toList) :
      ∀ c ∈ line.toList, decide (c ≠ '\n') = true := by
    intro c hc
    exact decide_eq_true fun heq => hline (heq ▸ hc)
  have hbreak (rest : List Char) : ∀ c ∈ ('\n' :: rest).head?, decide (c ≠ '\n') = false := by simp
  have htext := congrArg String.toList h
  rw [toList_unlines, toList_unlines] at htext
  obtain ⟨hfirst, hrest⟩ :=
    Text.append_inj_of_stop (hinside hline) (hinside hother) (hbreak _) (hbreak _) htext
  exact ⟨String.toList_inj.1 hfirst, String.toList_inj.1 (List.tail_eq_of_cons_eq hrest)⟩

/-- Lines without line breaks are told by their text. -/
theorem unlines_inj {lines others : List String} (h : ∀ line ∈ lines, '\n' ∉ line.toList)
    (h' : ∀ line ∈ others, '\n' ∉ line.toList) :
    unlines lines = unlines others ↔ lines = others := by
  refine ⟨fun htext => ?_, congrArg unlines⟩
  induction lines generalizing others with
  | nil =>
    cases others with
    | nil => rfl
    | cons other others => exact absurd htext.symm (unlines_cons_ne other others)
  | cons line lines ih =>
    cases others with
    | nil => exact absurd htext (unlines_cons_ne line lines)
    | cons other others =>
      obtain ⟨hline, hlines⟩ := List.forall_mem_cons.1 h
      obtain ⟨hother, hothers⟩ := List.forall_mem_cons.1 h'
      obtain ⟨rfl, hrest⟩ := unlines_cons_inj hline hother htext
      rw [ih hlines hothers hrest]

end TaskQuery
