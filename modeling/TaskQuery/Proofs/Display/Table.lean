/-
  TaskQuery — what colours do to the text of a table.

  A cell is filled up with blanks by the number of its characters, those of its escape
  sequences included; so a coloured priority, and a short coloured due date, are followed by
  fewer blanks than plain ones, and the cells behind them move to the left.

  * `Narrows text wide keeps`: a text is at most as long as another one, and is the other one
    iff `keeps`; closed under composition and `++`;
  * `lineOf`: the characters of a line around its two paddings that depend on colours;
    `narrows_lineOf` compares two lines that differ in these;
  * `looks_priorityCell` and `looks_dueCell`: the coloured cells themselves keep their text;
  * `colors_keep_text_iff`: for which tasks a table has the same text in colours.
-/
import TaskQuery.Display.Table
import TaskQuery.Proofs.Calendar.Ending
import TaskQuery.Proofs.Display.Escapes
import TaskQuery.Proofs.Display.Lines

namespace TaskQuery

open Text (trimEnd)

/-! ## Narrower texts -/

/-- A text is at most as long as another one, and is the same iff `keeps` holds. -/
structure Narrows (text wide : List Char) (keeps : Prop) : Prop where
  length_le : text.length ≤ wide.length
  keeps_of_length : text.length = wide.length → keeps
  eq_of_keeps : keeps → text = wide

namespace Narrows

variable {a b c d : List Char} {P Q : Prop}

theorem eq_iff (h : Narrows a b P) : a = b ↔ P :=
  ⟨fun heq => h.keeps_of_length (congrArg List.length heq), h.eq_of_keeps⟩

theorem refl (a : List Char) : Narrows a a True :=
  ⟨Nat.le_refl _, fun _ => trivial, fun _ => rfl⟩

theorem congr (h : Narrows a b P) (hiff : P ↔ Q) : Narrows a b Q :=
  ⟨h.length_le, hiff.1 ∘ h.keeps_of_length, h.eq_of_keeps ∘ hiff.2⟩

theorem trans (hab : Narrows a b P) (hbc : Narrows b c Q) : Narrows a c (P ∧ Q) := by
  have hle := hab.length_le
  have hle' := hbc.length_le
  refine ⟨hle.trans hle', fun h => ?_, fun h => (hab.eq_of_keeps h.1).trans (hbc.eq_of_keeps h.2)⟩
  exact ⟨hab.keeps_of_length (by omega), hbc.keeps_of_length (by omega)⟩

theorem append (hab : Narrows a b P) (hcd : Narrows c d Q) : Narrows (a ++ c) (b ++ d) (P ∧ Q) := by
  have hle := hab.length_le
  have hle' := hcd.length_le
  refine ⟨?_, fun h => ?_, fun h => ?_⟩
  · rw [List.length_append, List.length_append]
    omega
  · rw [List.length_append, List.length_append] at h
    exact ⟨hab.keeps_of_length (by omega), hcd.keeps_of_length (by omega)⟩
  · rw [hab.eq_of_keeps h.1, hcd.eq_of_keeps h.2]

/-- Blanks can be left out of a line unseen only if nothing is seen behind them. -/
theorem of_gap {m n : Nat} (h : m ≤ n) (a b : List Char) :
    Narrows (trimEnd (a ++ (List.replicate m ' ' ++ b)))
      (trimEnd (a ++ (List.replicate n ' ' ++ b))) (m = n ∨ AllBlank b) := by
  by_cases hblank : AllBlank b
  · have hgap (k : Nat) : trimEnd (a ++ (List.replicate k ' ' ++ b)) = trimEnd a :=
      trimEnd_append_of_blank (allBlank_append.2 ⟨allBlank_replicate k, hblank⟩)
    rw [hgap, hgap]
    exact (refl _).congr (by simp [hblank])
  · have hgap (k : Nat) : trimEnd (a ++ (List.replicate k ' ' ++ b)) =
        a ++ (List.replicate k ' ' ++ trimEnd b) := by
      rw [← List.append_assoc, trimEnd_append_of_not_blank hblank, List.append_assoc]
    rw [hgap, hgap]
    refine ⟨?_, fun heq => Or.inl ?_, ?_⟩
    · simpa using h
    · simpa using heq
    · rintro (rfl | hblank')
      · rfl
      · exact absurd hblank' hblank

end Narrows

/-! ## Lines -/

/-- A line with `m` blanks behind its priority and `n` behind its due date, and one more
    behind each of these columns. -/
def lineOf (front priority due back : List Char) (m n : Nat) : List Char :=
  front ++ (priority ++ (List.replicate m ' ' ++
    (' ' :: (due ++ (List.replicate n ' ' ++ (' ' :: back))))))

theorem looks_lineOf {front front' priority priority' due due' back : List Char}
    (hfront : Looks front front') (hpriority : Looks priority priority') (hdue : Looks due due')
    (hback : '\x1b' ∉ back) (m n : Nat) :
    Looks (lineOf front priority due back m n) (lineOf front' priority' due' back m n) := by
  have hgap (k : Nat) : Looks (List.replicate k ' ') (List.replicate k ' ') :=
    looks_self fun h => absurd (List.eq_of_mem_replicate h) (by decide)
  have hblank : Looks [' '] [' '] := looks_self (by decide)
  exact hfront.append (hpriority.append ((hgap m).append (hblank.append
    (hdue.append ((hgap n).append (hblank.append (looks_self hback)))))))

/-- A line with less padding is the same, up to blanks at its end, iff nothing is seen behind
    each padding that is shorter. -/
theorem narrows_lineOf {m m' n n' : Nat} (hm : m' ≤ m) (hn : n' ≤ n)
    (front priority due back : List Char) :
    Narrows (trimEnd (lineOf front priority due back m' n'))
      (trimEnd (lineOf front priority due back m n))
      ((m' = m ∨ AllBlank due ∧ AllBlank back) ∧ (n' = n ∨ AllBlank back)) := by
  have hspace (text : List Char) : AllBlank (' ' :: text) ↔ AllBlank text := by
    simp [AllBlank, show Text.isBlank ' ' from by decide]
  have hfirst := Narrows.of_gap hm (front ++ priority)
    (' ' :: (due ++ (List.replicate n' ' ' ++ (' ' :: back))))
  have hsecond := Narrows.of_gap hn
    (front ++ (priority ++ (List.replicate m ' ' ++ (' ' :: due)))) (' ' :: back)
  simp only [List.append_assoc, List.cons_append] at hfirst hsecond
  refine (hfirst.trans hsecond).congr ?_
  rw [hspace, hspace, allBlank_append, allBlank_append, hspace]
  simp only [allBlank_replicate, true_and]

theorem toList_padRight (width : Nat) (text : String) :
    (padRight width text).toList = text.toList ++ List.replicate (width - text.length) ' ' := by
  rw [padRight, String.toList_append, String.toList_ofList]

/-- The characters of a line around its two paddings. -/
theorem toList_columns (id done priority due project labels title : String) :
    (columns id done priority due project labels title).toList =
      lineOf (padRight 8 id ++ " " ++ padRight 1 done ++ " ").toList priority.toList due.toList
        (padRight 15 project ++ " " ++ padRight 15 labels ++ " " ++ title).toList
        (6 - priority.length) (12 - due.length) := by
  simp only [columns, lineOf, String.toList_append, toList_padRight, List.append_assoc]
  rfl

/-! ## Characters of the cells -/

variable {text : String} {width : Nat}

theorem escape_not_mem_takeChars (h : '\x1b' ∉ text.toList) (count : Nat) :
    '\x1b' ∉ (takeChars count text).toList := by
  rw [takeChars, String.toList_ofList]
  exact fun hmem => h (List.mem_of_mem_take hmem)

theorem escape_not_mem_truncate (h : '\x1b' ∉ text.toList) :
    '\x1b' ∉ (truncate width text).toList := by
  unfold truncate
  split
  · rw [String.toList_append, List.mem_append]
    rintro (hmem | hmem)
    · exact escape_not_mem_takeChars h _ hmem
    · simp at hmem
  · exact h

theorem escape_not_mem_padRight (h : '\x1b' ∉ text.toList) :
    '\x1b' ∉ (padRight width text).toList := by
  rw [toList_padRight, List.mem_append]
  rintro (hmem | hmem)
  · exact h hmem
  · simp at hmem

theorem escape_not_mem_intercalate {parts : List (List Char)} (h : ∀ part ∈ parts, '\x1b' ∉ part) :
    '\x1b' ∉ [' '].intercalate parts := by
  cases parts with
  | nil => simp
  | cons part parts =>
    obtain ⟨hpart, hparts⟩ := List.forall_mem_cons.1 h
    rw [Text.intercalate_cons]
    simpa [hpart] using hparts

theorem escape_not_mem_labelsCell {labels : List String}
    (h : ∀ label ∈ labels, '\x1b' ∉ label.toList) :
    '\x1b' ∉ (labelsCell width labels).toList := by
  refine escape_not_mem_truncate ?_
  rw [String.toList_intercalate]
  refine escape_not_mem_intercalate fun part hpart => ?_
  simp only [List.map_map, List.mem_map] at hpart
  obtain ⟨label, hlabel, rfl⟩ := hpart
  simp [h label hlabel]

/-- A day is named without an escape sequence. -/
theorem escape_not_mem_relativeDay (day today : Int) : '\x1b' ∉ (relativeDay day today).toList := by
  have hdigits (n : Nat) : '\x1b' ∉ Nat.toDigits 10 n := fun hmem =>
    absurd (Nat.isDigit_of_mem_toDigits (by decide) (by decide) hmem) (by decide)
  have hname (names : List String) (h : ∀ name ∈ names, '\x1b' ∉ name.toList) (i : Nat) :
      '\x1b' ∉ (names.getD i "").toList := by
    rw [List.getD_eq_getElem?_getD]
    cases hname : names[i]? with
    | none => decide
    | some name => exact h name (List.mem_of_getElem? hname)
  have hmonth (month : Nat) : '\x1b' ∉ (Date.monthName month).toList :=
    hname _ (by decide) (month - 1)
  unfold relativeDay
  split_ifs
  · decide
  · decide
  · decide
  · simp [Nat.toList_repr, hdigits]
  · simp [Instant.padDigits, hdigits, hmonth]

/-- A day that is not to come is named by a text that does not end in a blank. -/
theorem endsSolid_relativeDay {day today : Int} (h : day ≤ today) :
    EndsSolid (relativeDay day today).toList := by
  unfold relativeDay
  split_ifs
  · exact ⟨"Toda".toList, 'y', rfl, by decide⟩
  · omega
  · exact ⟨"Yesterda".toList, 'y', rfl, by decide⟩
  · rw [String.toList_append]
    exact EndsSolid.append ⟨" days ag".toList, 'o', rfl, by decide⟩ _
  · omega

/-! ## Coloured cells -/

theorem looks_doneCell (done : Bool) :
    Looks (padRight 1 (doneCell true done)).toList (padRight 1 (doneCell false done)).toList := by
  cases done with
  | false => exact looks_self (by decide)
  | true =>
    have hpad (colors : Bool) : padRight 1 (doneCell colors true) = paint colors [.green] "x" := by
      cases colors <;> decide
    rw [hpad, hpad]
    exact looks_paint true _ (by decide) ⟨[], 'x', rfl, by decide⟩

theorem looks_priorityCell (priority : Option Priority) :
    Looks (priorityCell true priority).toList (priorityCell false priority).toList := by
  cases priority with
  | none => exact looks_self (by decide)
  | some priority =>
    refine looks_paint true _ ?_ ?_
    · cases priority <;> decide
    · cases priority
      · exact ⟨['l', 'o'], 'w', rfl, by decide⟩
      · exact ⟨"mediu".toList, 'm', rfl, by decide⟩
      · exact ⟨"hig".toList, 'h', rfl, by decide⟩

/-- Only the name of the longest priority fills its column. -/
theorem priorityCell_padding (priority : Option Priority) :
    6 - (priorityCell true priority).length ≤ 6 - (priorityCell false priority).length ∧
      (6 - (priorityCell true priority).length = 6 - (priorityCell false priority).length ↔
        priority ≠ some .low ∧ priority ≠ some .high) := by
  rcases priority with - | - | - | - <;> decide

/-- The due date of a task is coloured: it is read as an instant which lies, by the clocks of the
    zone, in a day up to the current one. -/
def Task.DueIsColored (today : Today) (t : Task) : Prop :=
  ∃ text instant, t.dueDate = some text ∧ Instant.ofText? text = some instant ∧
    today.zone.dayNumber instant ≤ today.day

/-- A due date is coloured as a whole or not at all. -/
theorem dueCell_cases (isoDates : Bool) (today : Today) (t : Task) :
    (t.DueIsColored today ∧ EndsSolid (dueCell ⟨false, isoDates, today⟩ t.dueDate).toList ∧
      ∃ style, (style = .red ∨ style = .yellow) ∧ dueCell ⟨true, isoDates, today⟩ t.dueDate =
        paint true [style] (dueCell ⟨false, isoDates, today⟩ t.dueDate)) ∨
    ¬ t.DueIsColored today ∧
      dueCell ⟨true, isoDates, today⟩ t.dueDate = dueCell ⟨false, isoDates, today⟩ t.dueDate := by
  cases hdue : t.dueDate with
  | none => exact Or.inr ⟨fun ⟨text, _, htext, _⟩ => by simp [hdue] at htext, rfl⟩
  | some text =>
    cases hread : Instant.ofText? text with
    | none =>
      refine Or.inr ⟨fun ⟨text', _, htext, hread', _⟩ => ?_, ?_⟩
      · obtain rfl : text = text' := Option.some.inj (hdue.symm.trans htext)
        simp [hread] at hread'
      · simp only [dueCell, hread]
    | some instant =>
      simp only [dueCell, hread]
      by_cases hpast : today.zone.dayNumber instant ≤ today.day
      · refine Or.inl ⟨⟨text, instant, hdue, hread, hpast⟩, ?_, ?_⟩
        · cases isoDates with
          | false => exact endsSolid_relativeDay hpast
          | true => exact Instant.ofText?_endsSolid hread
        · rcases Int.lt_or_eq_of_le hpast with hlt | heq
          · exact ⟨.red, Or.inl rfl, by simp [hlt, paint]⟩
          · exact ⟨.yellow, Or.inr rfl, by simp [heq, paint]⟩
      · refine Or.inr ⟨fun ⟨text', instant', htext, hread', hle⟩ => ?_, ?_⟩
        · obtain rfl : text = text' := Option.some.inj (hdue.symm.trans htext)
          obtain rfl : instant = instant' := Option.some.inj (hread.symm.trans hread')
          exact hpast hle
        · rw [if_neg (by omega), if_neg (by omega)]
          rfl

theorem escape_not_mem_dueCell (isoDates : Bool) (today : Today) {due : Option String}
    (h : ∀ text ∈ due, '\x1b' ∉ text.toList) :
    '\x1b' ∉ (dueCell ⟨false, isoDates, today⟩ due).toList := by
  cases due with
  | none => simp [dueCell]
  | some text =>
    unfold dueCell
    dsimp only
    split
    · exact h text rfl
    · simp only [paint, Bool.false_eq_true, if_false]
      split_ifs
      · exact h text rfl
      · exact escape_not_mem_relativeDay _ _

theorem looks_dueCell (isoDates : Bool) (today : Today) (t : Task)
    (h : ∀ text ∈ t.dueDate, '\x1b' ∉ text.toList) :
    Looks (dueCell ⟨true, isoDates, today⟩ t.dueDate).toList
      (dueCell ⟨false, isoDates, today⟩ t.dueDate).toList := by
  have hescape := escape_not_mem_dueCell isoDates today h
  rcases dueCell_cases isoDates today t with ⟨-, hsolid, style, -, heq⟩ | ⟨-, heq⟩
  · rw [heq]
    exact looks_paint true [style] hescape hsolid
  · rw [heq]
    exact looks_self hescape

/-- The sequences of a coloured due date count as ten characters of its column. -/
theorem dueCell_padding (isoDates : Bool) (today : Today) (t : Task) :
    12 - (dueCell ⟨true, isoDates, today⟩ t.dueDate).length ≤
        12 - (dueCell ⟨false, isoDates, today⟩ t.dueDate).length ∧
      (12 - (dueCell ⟨true, isoDates, today⟩ t.dueDate).length =
          12 - (dueCell ⟨false, isoDates, today⟩ t.dueDate).length ↔
        (t.DueIsColored today → 12 ≤ (dueCell ⟨false, isoDates, today⟩ t.dueDate).length)) := by
  rcases dueCell_cases isoDates today t with ⟨hcolored, hsolid, style, hstyle, heq⟩ | ⟨hplain, heq⟩
  · have hlength : (dueCell ⟨true, isoDates, today⟩ t.dueDate).length =
        (dueCell ⟨false, isoDates, today⟩ t.dueDate).length + 10 := by
      have hcodes : (escapeSequence style.codes.1).length = 5 ∧
          (escapeSequence style.codes.2).length = 5 := by
        rcases hstyle with rfl | rfl <;> decide
      rw [heq]
      simp only [paint, if_true, List.foldl_cons, List.foldl_nil, Style.apply,
        String.length_append, hcodes]
      omega
    have hpos : 0 < (dueCell ⟨false, isoDates, today⟩ t.dueDate).length := by
      obtain ⟨front, c, htext, -⟩ := hsolid
      rw [← String.length_toList, htext]
      simp
    rw [hlength]
    simp only [hcolored, forall_const]
    omega
  · rw [heq]
    simp [hplain]

/-! ## Tables -/

/-- The texts of a task that a table shows. -/
def Task.shownTexts (t : Task) : List String :=
  [t.id, t.title] ++ t.dueDate.toList ++ t.project.toList ++ t.labels

/-- Nothing is seen of a task behind its due date. -/
def Task.BlankBehindDue (t : Task) : Prop :=
  AllBlank (truncate 15 (t.project.getD "")).toList ∧ AllBlank (labelsCell 15 t.labels).toList ∧
    AllBlank t.title.toList

/-- The columns behind the due date. -/
def Task.backColumns (t : Task) : String :=
  padRight 15 (truncate 15 (t.project.getD "")) ++ " " ++ padRight 15 (labelsCell 15 t.labels)
    ++ " " ++ t.title

theorem Task.allBlank_backColumns (t : Task) :
    AllBlank t.backColumns.toList ↔ t.BlankBehindDue := by
  have hspace : AllBlank " ".toList := by decide
  have hpad (width : Nat) (text : String) : AllBlank (padRight width text).toList ↔
      AllBlank text.toList := by
    rw [toList_padRight, allBlank_append, and_iff_left (allBlank_replicate _)]
  simp only [backColumns, BlankBehindDue, String.toList_append, allBlank_append, hpad, hspace,
    and_true, and_assoc]

/-- The line of a task in colours, with as many blanks as its coloured cells leave. -/
theorem visible_taskLine (isoDates : Bool) (today : Today) {t : Task}
    (h : ∀ text ∈ t.shownTexts, '\x1b' ∉ text.toList) (rest : List Char) :
    visible false ((taskLine ⟨true, isoDates, today⟩ t).toList ++ rest) =
      trimEnd (lineOf
        (padRight 8 (idCell t.id) ++ " " ++ padRight 1 (doneCell false t.done) ++ " ").toList
        (priorityCell false t.priority).toList (dueCell ⟨false, isoDates, today⟩ t.dueDate).toList
        t.backColumns.toList (6 - (priorityCell true t.priority).length)
        (12 - (dueCell ⟨true, isoDates, today⟩ t.dueDate).length)) ++ visible false rest := by
  have hspace : '\x1b' ∉ " ".toList := by decide
  have hid : '\x1b' ∉ (padRight 8 (idCell t.id)).toList :=
    escape_not_mem_padRight (escape_not_mem_takeChars (h _ (by simp [Task.shownTexts])) 8)
  have hdue : ∀ text ∈ t.dueDate, '\x1b' ∉ text.toList := by
    intro text htext
    exact h text (by simp [Task.shownTexts, Option.mem_def.1 htext])
  have hproject : '\x1b' ∉ (t.project.getD "").toList := by
    cases hproject : t.project with
    | none => decide
    | some project => exact h project (by simp [Task.shownTexts, hproject])
  have hlabels : ∀ label ∈ t.labels, '\x1b' ∉ label.toList := by
    intro label hlabel
    exact h label (by simp [Task.shownTexts, hlabel])
  have hback : '\x1b' ∉ t.backColumns.toList := by
    simp only [Task.backColumns, String.toList_append, List.mem_append, not_or]
    exact ⟨⟨⟨⟨escape_not_mem_padRight (escape_not_mem_truncate hproject), hspace⟩,
      escape_not_mem_padRight (escape_not_mem_labelsCell hlabels)⟩, hspace⟩,
      h _ (by simp [Task.shownTexts])⟩
  rw [taskLine, trimLine, String.toList_ofList, toList_columns]
  refine (looks_lineOf ?_ (looks_priorityCell t.priority) (looks_dueCell isoDates today t hdue)
    hback _ _).trimmed_eq rest
  simp only [String.toList_append]
  exact (((looks_self hid).append (looks_self hspace)).append (looks_doneCell t.done)).append
    (looks_self hspace)

/-- Colours leave the line of a task its text: nothing is seen behind a padding that they
    shorten. -/
def Task.KeepsLine (isoDates : Bool) (today : Today) (t : Task) : Prop :=
  (t.priority = some .low ∨ t.priority = some .high →
    AllBlank (dueCell ⟨false, isoDates, today⟩ t.dueDate).toList ∧ t.BlankBehindDue) ∧
  (t.DueIsColored today → (dueCell ⟨false, isoDates, today⟩ t.dueDate).length < 12 →
    t.BlankBehindDue)

/-- What is left of the line of a task in colours is its plain line, or a shorter one. -/
theorem narrows_taskLine (isoDates : Bool) (today : Today) {t : Task}
    (h : ∀ text ∈ t.shownTexts, '\x1b' ∉ text.toList) :
    ∃ line, (∀ rest, visible false ((taskLine ⟨true, isoDates, today⟩ t).toList ++ rest) =
        line ++ visible false rest) ∧
      Narrows line (taskLine ⟨false, isoDates, today⟩ t).toList (t.KeepsLine isoDates today) := by
  obtain ⟨hpriority, hpriority_iff⟩ := priorityCell_padding t.priority
  obtain ⟨hdue, hdue_iff⟩ := dueCell_padding isoDates today t
  refine ⟨_, visible_taskLine isoDates today h, ?_⟩
  rw [taskLine, trimLine, String.toList_ofList, toList_columns]
  refine (narrows_lineOf hpriority hdue _ _ _ _).congr ?_
  rw [hpriority_iff, hdue_iff, t.allBlank_backColumns]
  unfold Task.KeepsLine
  refine and_congr ?_ ?_
  · rw [← not_or, imp_iff_not_or]
  · rw [← Nat.not_lt, ← not_and, ← imp_iff_not_or, and_imp]

/-- What is left of the lines of tasks in colours are their plain lines, or shorter ones. -/
theorem narrows_lines (isoDates : Bool) (today : Today) {tasks : List Task}
    (h : ∀ t ∈ tasks, ∀ text ∈ t.shownTexts, '\x1b' ∉ text.toList) :
    Narrows (visible false (unlines (tasks.map (taskLine ⟨true, isoDates, today⟩))).toList)
      (unlines (tasks.map (taskLine ⟨false, isoDates, today⟩))).toList
      (∀ t ∈ tasks, t.KeepsLine isoDates today) := by
  induction tasks with
  | nil => exact (Narrows.refl _).congr (by simp)
  | cons t tasks ih =>
    obtain ⟨ht, htasks⟩ := List.forall_mem_cons.1 h
    obtain ⟨line, hvisible, hline⟩ := narrows_taskLine isoDates today ht
    rw [List.map_cons, List.map_cons, toList_unlines, toList_unlines, hvisible,
      visible_cons (by decide)]
    refine (hline.append ((Narrows.refl ['\n']).append (ih htasks))).congr ?_
    rw [true_and, List.forall_mem_cons]

theorem endsSolid_headingLine : EndsSolid headingLine.toList :=
  ⟨headingLine.toList.dropLast, 'e', by decide, by decide⟩

/-- A table in colours has the text of the plain table if its lines have; its headings always do. -/
theorem keeps_text_iff_lines (isoDates : Bool) (today : Today) {tasks : List Task} (hne : tasks ≠ []) :
    withoutEscapes (taskTable ⟨true, isoDates, today⟩ tasks) =
        taskTable ⟨false, isoDates, today⟩ tasks ↔
      visible false (unlines (tasks.map (taskLine ⟨true, isoDates, today⟩))).toList =
        (unlines (tasks.map (taskLine ⟨false, isoDates, today⟩))).toList := by
  have hheading : Looks (paint true [.dim] headingLine).toList headingLine.toList :=
    looks_paint true _ (by decide) endsSolid_headingLine
  have hplain : paint false [.dim] headingLine = headingLine := rfl
  unfold taskTable
  rw [if_neg hne, if_neg hne, hplain, ← String.toList_inj, withoutEscapes, String.toList_ofList,
    toList_unlines, toList_unlines, hheading.visible_eq, visible_cons (by decide),
    List.append_cancel_left_eq, List.cons.injEq, eq_self, true_and]

/-- **A table in colours** has the text of the plain table, if no text in it has an escape
    character, exactly when, for every task with a priority other than medium, nothing is seen
    behind the priority, and for every task whose due date is coloured and shorter than its
    column, nothing is seen behind the due date. -/
theorem colors_keep_text_iff (isoDates : Bool) (today : Today) {tasks : List Task}
    (h : ∀ t ∈ tasks, ∀ text ∈ t.shownTexts, '\x1b' ∉ text.toList) :
    withoutEscapes (taskTable ⟨true, isoDates, today⟩ tasks) =
        taskTable ⟨false, isoDates, today⟩ tasks ↔
      ∀ t ∈ tasks, t.KeepsLine isoDates today := by
  cases tasks with
  | nil => simp [taskTable, withoutEscapes, visible]
  | cons t tasks =>
    rw [keeps_text_iff_lines isoDates today (List.cons_ne_nil t tasks)]
    exact (narrows_lines isoDates today h).eq_iff

/-- A priority in the middle, and a due date that fills its column.  It lies in the current day
    where clocks are four hours behind universal time, and in the next one by those. -/
theorem colors_keep_text_medium :
    let day : Int := 19844
    let today : Today := ⟨day, ⟨fun _ => -14400⟩⟩
    let t : Task :=
      { id := "1", title := "Ship", priority := some .medium,
        dueDate := some "2024-05-02T02:00:00Z" }
    (t.DueIsColored today ∧ ¬ t.DueIsColored day) ∧
    withoutEscapes (taskTable ⟨true, true, today⟩ [t]) = taskTable ⟨false, true, today⟩ [t] := by
  intro day today t
  have hread : Instant.ofText? "2024-05-02T02:00:00Z" = some ⟨1714615200, 0⟩ := by decide
  refine ⟨⟨⟨_, _, rfl, hread, by decide⟩, ?_⟩, ?_⟩
  · rintro ⟨text, instant, htext, hinstant, hle⟩
    obtain rfl := Option.some.inj htext
    obtain rfl := Option.some.inj (hread.symm.trans hinstant)
    exact absurd hle (by decide)
  · refine (colors_keep_text_iff true today (by decide)).2 fun t' ht' => ?_
    obtain rfl := List.mem_singleton.1 ht'
    exact ⟨fun hpriority => absurd hpriority (by decide), fun _ hshort => absurd hshort (by decide)⟩

/-- A title moves two columns to the left of a plain one behind a high priority. -/
theorem colors_move_title :
    withoutEscapes
      (taskTable ⟨true, false, (0 : Int)⟩ [{ id := "1", title := "Ship", priority := some .high }])
    ≠ taskTable ⟨false, false, (0 : Int)⟩
      [{ id := "1", title := "Ship", priority := some .high }] := by
  rw [Ne, keeps_text_iff_lines false _ (List.cons_ne_nil _ _),
    (narrows_lines false _ (by decide)).eq_iff, List.forall_mem_singleton]
  rintro ⟨hpriority, -⟩
  obtain ⟨-, -, -, htitle⟩ := hpriority (Or.inr rfl)
  exact absurd htitle (by decide)

end TaskQuery
