/-
  TaskQuery — tasks as a table.

  The table has a line of headings and a line for every task: identifier, mark of
  completion, priority, due date, project, labels and title, in columns of fixed
  width.  Texts that are too long are cut off with dots.  A cell is filled up
  with blanks according to the number of its characters, those of its colours
  included; blanks at the end of a line are dropped.

  * `truncate width text` cuts a text off;
  * `doneCell`, `priorityCell`, `dueCell`, `labelsCell` are the cells;
  * `taskTable` is the table, and `summaryLine` the line below it.
-/
import TaskQuery.Display.Style
import TaskQuery.Task.Basic

namespace TaskQuery

/-! ## Texts -/

/-- The first characters of a text. -/
def takeChars (count : Nat) (text : String) : String :=
  String.ofList (text.toList.take count)

/-- A text of at most `width` characters: a longer one ends with three dots. -/
def truncate (width : Nat) (text : String) : String :=
  if width < text.length then takeChars (width - 3) text ++ "..." else text

/-- A text with blanks after it up to a width. -/
def padRight (width : Nat) (text : String) : String :=
  text ++ String.ofList (List.replicate (width - text.length) ' ')

/-- A text without the blanks at its end. -/
def trimLine (text : String) : String :=
  String.ofList (Text.trimEnd text.toList)

/-! ## Cells -/

/-- How a table is shown. -/
structure TableStyle where
  /-- Whether colours are on. -/
  colors : Bool
  /-- Whether due dates are shown as they are stored. -/
  isoDates : Bool
  /-- The current day, in the zone in which due dates are shown. -/
  today : Today

/-- The identifier of a task in eight characters. -/
def idCell (id : String) : String :=
  takeChars 8 id

/-- The mark of a completed task. -/
def doneCell (colors done : Bool) : String :=
  if done then paint colors [.green] "x" else " "

/-- The colour of a priority. -/
def Priority.style : Priority → Style
  | low => .dim
  | medium => .yellow
  | high => .red

/-- The name of a priority. -/
def priorityCell (colors : Bool) (priority : Option Priority) : String :=
  match priority with
  | some p => paint colors [p.style] p.name
  | none => ""

/-- A day as seen from the current one: by name, by the number of days that have
    passed, or by its date if it is to come. -/
def relativeDay (day today : Int) : String :=
  if day = today then "Today"
  else if day = today + 1 then "Tomorrow"
  else if day = today - 1 then "Yesterday"
  else if day < today then toString (today - day).toNat ++ " days ago"
  else
    let date := Date.ofDayNumber day
    Date.monthName date.month ++ " " ++ String.ofList (Instant.padDigits 2 date.day)

/-- The due date of a task: red in the past and yellow on the current day, by the
    clocks of the zone.  A text that is no date is shown as it is. -/
def dueCell (style : TableStyle) (due : Option String) : String :=
  match due with
  | none => ""
  | some text =>
    match Instant.ofText? text with
    | none => text
    | some instant =>
      let today := style.today.day
      let day := style.today.zone.dayNumber instant
      let shown := if style.isoDates then text else relativeDay day today
      let styles := if day < today then [Style.red] else if day = today then [Style.yellow] else []
      paint style.colors styles shown

/-- The labels of a task, each after an at sign. -/
def labelsCell (width : Nat) (labels : List String) : String :=
  truncate width (" ".intercalate (labels.map ("@" ++ ·)))

/-! ## Lines -/

/-- The cells of a line in their columns. -/
def columns (id done priority due project labels title : String) : String :=
  padRight 8 id ++ " " ++ padRight 1 done ++ " " ++ padRight 6 priority ++ " " ++ padRight 12 due
    ++ " " ++ padRight 15 project ++ " " ++ padRight 15 labels ++ " " ++ title

/-- The line of headings. -/
def headingLine : String :=
  columns "ID" "" "Pri" "Due" "Project" "Labels" "Title"

/-- The line of a task. -/
def taskLine (style : TableStyle) (t : Task) : String :=
  trimLine <| columns (idCell t.id) (doneCell style.colors t.done)
    (priorityCell style.colors t.priority) (dueCell style t.dueDate)
    (truncate 15 (t.project.getD "")) (labelsCell 15 t.labels) t.title

/-- The table of tasks. -/
def taskTable (style : TableStyle) (tasks : List Task) : String :=
  if tasks = [] then "No tasks found.\n"
  else unlines (paint style.colors [.dim] headingLine :: tasks.map (taskLine style))

/-- The line below a table: how many tasks are shown, matched and there. -/
def summaryLine (shown matched total : Nat) : String :=
  if shown < matched then
    toString shown ++ " of " ++ toString matched ++ " matching tasks shown (" ++ toString total
      ++ " total)\n"
  else toString matched ++ " of " ++ toString total ++ " tasks\n"

end TaskQuery
