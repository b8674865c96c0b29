/-
  TaskQuery — how many lines a table has.

  A text in a cell is shown as it is, with its line breaks; only the blanks at the end of a
  line are dropped, and line breaks among them.

  * `break_not_mem_trimEnd_iff`: which line breaks are dropped at the end of a text;
  * `SameBreaks text plain`: two texts have the same line breaks, up to blanks at their ends;
    closed under `++`; `sameBreaks_padRight` and `sameBreaks_paint`: so do a cell that is
    filled up and one in colours;
  * `Task.shownCells`: the plain cells of a task; `sameBreaks_columns`: the line of a task and
    these cells have the same line breaks;
  * `count_taskTable`: the lines of a table, and the line breaks in them;
  * `Task.OnOneLine`: the line breaks in the cells of a task are followed by blanks alone;
    `table_lines_iff`: for which tasks a table has one line each.
-/
import TaskQuery.Proofs.Display.Lines
import TaskQuery.Proofs.Display.Table

namespace TaskQuery

open Text (trimEnd)

variable {text plain a b c d : List Char}

/-! ## Line breaks at the end -/

/-- Of a text without the blanks at its end, those line breaks are left behind which there is
    something else than blanks. -/
theorem break_not_mem_trimEnd_iff : '\n' ∉ trimEnd text ↔
    ∀ before behind, text = before ++ '\n' :: behind → AllBlank behind := by
  constructor
  · rintro h before behind rfl
    by_contra hblank
    rw [← List.singleton_append, ← List.append_assoc, trimEnd_append_of_not_blank hblank] at h
    exact h (List.mem_append_left _ (List.mem_append_right _ List.mem_cons_self))
  · intro h hmem
    obtain ⟨trailing, -, htext⟩ := Text.exists_eq_trimEnd text
    obtain ⟨before, behind, htrim⟩ := List.append_of_mem hmem
    have hsplit : text = before ++ '\n' :: (behind ++ trailing) := by
      rw [htext, htrim, List.append_assoc, List.cons_append]
    -- so the line break is dropped with what is behind it
    have hblank : AllBlank ('\n' :: (behind ++ trailing)) :=
      List.forall_mem_cons.2 ⟨by decide, h _ _ hsplit⟩
    have hshort : trimEnd text = trimEnd before := by
      rw [hsplit, trimEnd_append_of_blank hblank]
    obtain ⟨trailing', -, hbefore⟩ := Text.exists_eq_trimEnd before
    have hlength := congrArg List.length hbefore
    rw [← hshort, htrim] at hlength
    simp at hlength

/-! ## Texts with the same line breaks -/

/-- Two texts have line breaks or none, also without the blanks at their ends. -/
structure SameBreaks (text plain : List Char) : Prop where
  blank_iff : AllBlank text ↔ AllBlank plain
  break_iff : '\n' ∈ text ↔ '\n' ∈ plain
  trimmed_iff : '\n' ∈ trimEnd text ↔ '\n' ∈ trimEnd plain

namespace SameBreaks

theorem refl (text : List Char) : SameBreaks text text :=
  ⟨Iff.rfl, Iff.rfl, Iff.rfl⟩

theorem append (hac : SameBreaks a c) (hbd : SameBreaks b d) : SameBreaks (a ++ b) (c ++ d) := by
  refine ⟨?_, ?_, ?_⟩
  · rw [allBlank_append, allBlank_append, hac.blank_iff, hbd.blank_iff]
  · rw [List.mem_append, List.mem_append, hac.break_iff, hbd.break_iff]
  · by_cases hblank : AllBlank b
    · rw [trimEnd_append_of_blank hblank, trimEnd_append_of_blank (hbd.blank_iff.1 hblank),
        hac.trimmed_iff]
    · rw [trimEnd_append_of_not_blank hblank,
        trimEnd_append_of_not_blank (mt hbd.blank_iff.2 hblank), List.mem_append, List.mem_append,
        hac.break_iff, hbd.trimmed_iff]

end SameBreaks

/-- Spaces behind a text change none of its line breaks. -/
theorem sameBreaks_spaces (text : List Char) (n : Nat) :
    SameBreaks (text ++ List.replicate n ' ') text := by
  have hspaces : '\n' ∉ List.replicate n ' ' :=
    fun h => absurd (List.eq_of_mem_replicate h) (by decide)
  have hblank := allBlank_replicate n
  refine ⟨?_, ?_, ?_⟩
  · rw [allBlank_append, and_iff_left hblank]
  · rw [List.mem_append, or_iff_left hspaces]
  · rw [trimEnd_append_of_blank hblank]

/-- A cell that is filled up, with the space behind its column. -/
theorem sameBreaks_padRight {cell plain : String} (h : SameBreaks cell.toList plain.toList)
    (width : Nat) : SameBreaks (padRight width cell ++ " ").toList plain.toList := by
  have hspaces : (padRight width cell ++ " ").toList =
      cell.toList ++ List.replicate (width - cell.length + 1) ' ' := by
    rw [String.toList_append, toList_padRight, List.append_assoc, List.replicate_succ']
    rfl
  have hpad := sameBreaks_spaces cell.toList (width - cell.length + 1)
  rw [hspaces]
  exact ⟨hpad.blank_iff.trans h.blank_iff, hpad.break_iff.trans h.break_iff,
    hpad.trimmed_iff.trans h.trimmed_iff⟩

/-- A text in a colour, if it does not end in a blank. -/
theorem sameBreaks_paint (colors : Bool) (style : Style) {text : String}
    (hsolid : EndsSolid text.toList) :
    SameBreaks (paint colors [style] text).toList text.toList := by
  cases colors with
  | false => exact .refl _
  | true =>
    have hcodes : '\n' ∉ (escapeSequence style.codes.1).toList ∧
        '\n' ∉ (escapeSequence style.codes.2).toList := by
      cases style <;> decide
    have htext : (paint true [style] text).toList = (escapeSequence style.codes.1).toList ++
        (text.toList ++ (escapeSequence style.codes.2).toList) := by
      simp [paint, Style.apply]
    have hpainted : EndsSolid (paint true [style] text).toList := by
      rw [htext]
      refine EndsSolid.append (EndsSolid.append
        ⟨'\x1b' :: '[' :: style.codes.2.toList, 'm', ?_, by decide⟩ _) _
      simp [escapeSequence]
    have hbreaks : '\n' ∈ (paint true [style] text).toList ↔ '\n' ∈ text.toList := by
      rw [htext, List.mem_append, List.mem_append, or_iff_right hcodes.1, or_iff_left hcodes.2]
    refine ⟨iff_of_false hpainted.not_blank hsolid.not_blank, hbreaks, ?_⟩
    rw [hpainted.trimEnd_eq, hsolid.trimEnd_eq, hbreaks]

/-! ## Cells -/

/-- The plain cells of a task. -/
def Task.shownCells (isoDates : Bool) (today : Today) (t : Task) : List String :=
  [idCell t.id, doneCell false t.done, priorityCell false t.priority,
    dueCell ⟨false, isoDates, today⟩ t.dueDate, truncate 15 (t.project.getD ""),
    labelsCell 15 t.labels, t.title]

theorem sameBreaks_doneCell (colors done : Bool) :
    SameBreaks (doneCell colors done).toList (doneCell false done).toList := by
  cases done with
  | false => exact .refl _
  | true => exact sameBreaks_paint colors .green ⟨[], 'x', rfl, by decide⟩

theorem sameBreaks_priorityCell (colors : Bool) (priority : Option Priority) :
    SameBreaks (priorityCell colors priority).toList (priorityCell false priority).toList := by
  cases priority with
  | none => exact .refl _
  | some priority =>
    refine sameBreaks_paint colors priority.style ?_
    cases priority
    · exact ⟨['l', 'o'], 'w', rfl, by decide⟩
    · exact ⟨"mediu".toList, 'm', rfl, by decide⟩
    · exact ⟨"hig".toList, 'h', rfl, by decide⟩

theorem sameBreaks_dueCell (colors isoDates : Bool) (today : Today) (t : Task) :
    SameBreaks (dueCell ⟨colors, isoDates, today⟩ t.dueDate).toList
      (dueCell ⟨false, isoDates, today⟩ t.dueDate).toList := by
  cases colors with
  | false => exact .refl _
  | true =>
    rcases dueCell_cases isoDates today t with ⟨-, hsolid, style, -, heq⟩ | ⟨-, heq⟩
    · rw [heq]
      exact sameBreaks_paint true style hsolid
    · rw [heq]
      exact .refl _

/-- The line of a task and its plain cells have the same line breaks. -/
theorem sameBreaks_columns (style : TableStyle) (t : Task) :
    SameBreaks (columns (idCell t.id) (doneCell style.colors t.done)
      (priorityCell style.colors t.priority) (dueCell style t.dueDate)
      (truncate 15 (t.project.getD "")) (labelsCell 15 t.labels) t.title).toList
      ((t.shownCells style.isoDates style.today).flatMap String.toList) := by
  have hid := sameBreaks_padRight (.refl (idCell t.id).toList) 8
  have hdone := sameBreaks_padRight (sameBreaks_doneCell style.colors t.done) 1
  have hpriority := sameBreaks_padRight (sameBreaks_priorityCell style.colors t.priority) 6
  have hdue := sameBreaks_padRight (sameBreaks_dueCell style.colors style.isoDates style.today t) 12
  have hproject := sameBreaks_padRight (.refl (truncate 15 (t.project.getD "")).toList) 15
  have hlabels := sameBreaks_padRight (.refl (labelsCell 15 t.labels).toList) 15
  have hcells := hid.append (hdone.append (hpriority.append (hdue.append (hproject.append
    (hlabels.append (.refl t.title.toList))))))
  simpa [columns, Task.shownCells] using hcells

/-! ## Tables -/

/-- Every line break in the cells of a task is followed by blanks alone, in its cell and in the
    cells behind it. -/
def Task.OnOneLine (isoDates : Bool) (today : Today) (t : Task) : Prop :=
  ∀ before behind, (t.shownCells isoDates today).flatMap String.toList = before ++ '\n' :: behind →
    AllBlank behind

/-- The line of a task has line breaks, or none. -/
theorem break_not_mem_taskLine_iff (style : TableStyle) (t : Task) :
    '\n' ∉ (taskLine style t).toList ↔ t.OnOneLine style.isoDates style.today := by
  rw [taskLine, trimLine, String.toList_ofList, (sameBreaks_columns style t).trimmed_iff,
    break_not_mem_trimEnd_iff]
  rfl

/-- The line breaks of a table: one behind the headings and behind every task, and those in the
    lines of the tasks. -/
theorem count_taskTable (style : TableStyle) (tasks : List Task) :
    (taskTable style tasks).toList.count '\n' =
      tasks.length + 1 + (tasks.flatMap fun t => (taskLine style t).toList).count '\n' := by
  by_cases hempty : tasks = []
  · have hnotice : "No tasks found.\n".toList.count '\n' = 1 := by decide
    rw [taskTable, if_pos hempty, hnotice, hempty, List.flatMap_nil, List.count_nil,
      List.length_nil, Nat.zero_add, Nat.add_zero]
  · have hheading : (paint style.colors [.dim] headingLine).toList.count '\n' = 0 := by
      rw [List.count_eq_zero, (sameBreaks_paint style.colors .dim endsSolid_headingLine).break_iff]
      decide
    rw [taskTable, if_neg hempty, count_unlines, List.flatMap_cons, List.count_append, hheading,
      List.flatMap_map, List.length_cons, List.length_map, Nat.zero_add]

theorem count_taskTable_eq_iff (style : TableStyle) (tasks : List Task) :
    (taskTable style tasks).toList.count '\n' = tasks.length + 1 ↔
      ∀ t ∈ tasks, '\n' ∉ (taskLine style t).toList := by
  rw [count_taskTable, Nat.add_eq_left, List.count_eq_zero, List.mem_flatMap]
  simp only [not_exists, not_and]

/-- **A table has one line for every task** behind that of the headings, exactly if every line
    break in the cells of a task is followed by blanks alone; else it has more. -/
theorem table_lines_iff (style : TableStyle) (tasks : List Task) :
    ((taskTable style tasks).toList.count '\n' = tasks.length + 1 ↔
      ∀ t ∈ tasks, t.OnOneLine style.isoDates style.today) ∧
    tasks.length + 1 ≤ (taskTable style tasks).toList.count '\n' := by
  constructor
  · simp only [count_taskTable_eq_iff, break_not_mem_taskLine_iff]
  · rw [count_taskTable]
    exact Nat.le_add_right _ _

/-- A title in two lines. -/
theorem table_breaks_title :
    (taskTable ⟨false, false, (0 : Int)⟩ [{ id := "1", title := "a\nb" }]).toList.count '\n' ≠
      [({ id := "1", title := "a\nb" } : Task)].length + 1 := by
  rw [Ne, count_taskTable_eq_iff, List.forall_mem_singleton, break_not_mem_taskLine_iff]
  intro h
  have hblank : AllBlank ['b'] := h ['1', ' ', 'a'] ['b'] (by decide)
  exact absurd hblank (by decide)

end TaskQuery
