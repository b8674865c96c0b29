/-
  TaskQuery — tasks.

  * `Task` is a task; dates and times are kept as the texts they were given as;
  * `Task.record` is the task as conditions see it;
  * `Task.toJson` is the stored form: attributes that are not set are left out.
-/
import TaskQuery.Query.Evaluation

namespace TaskQuery

/-- A task. -/
structure Task where
  /-- The identifier. -/
  id : String := ""
  /-- The title. -/
  title : String := ""
  /-- Whether the task is completed. -/
  done : Bool := false
  /-- The priority. -/
  priority : Option Priority := none
  /-- The progress. -/
  percentDone : Number := .zero false
  /-- The due date. -/
  dueDate : Option String := none
  /-- The start date. -/
  startDate : Option String := none
  /-- The end date. -/
  endDate : Option String := none
  /-- When the task was completed. -/
  doneAt : Option String := none
  /-- The people the task is assigned to. -/
  assignees : List String := []
  /-- The labels. -/
  labels : List String := []
  /-- The project. -/
  project : Option String := none
  /-- The times to be reminded at. -/
  reminders : List String := []
  /-- When the task was created. -/
  created : Option String := none
  /-- When the task was last updated. -/
  updated : Option String := none
  deriving DecidableEq

namespace Task

/-- The value of a field of a task. -/
def record (t : Task) : Record
  | .done => .bool t.done
  | .priority => match t.priority with
    | some priority => .number (Number.ofInt priority.rank)
    | none => .null
  | .percentDone => .number t.percentDone
  | .dueDate => .ofText? t.dueDate
  | .startDate => .ofText? t.startDate
  | .endDate => .ofText? t.endDate
  | .doneAt => .ofText? t.doneAt
  | .assignees => .list t.assignees
  | .labels => .list t.labels
  | .project => .ofText? t.project
  | .reminders => .list t.reminders
  | .created => .ofText? t.created
  | .updated => .ofText? t.updated

/-- A list of texts as a JSON value. -/
def textsJson (texts : List String) : Json :=
  .array (texts.map .string)

/-- A task as a JSON value. -/
def toJson (t : Task) : Json :=
  .object <|
    [("id", .string t.id), ("title", .string t.title), ("done", .bool t.done)]
    ++ Json.optionalMember "priority" (t.priority.map fun p => .string p.name)
    ++ [("percentDone", .number t.percentDone)]
    ++ Json.optionalMember "dueDate" (t.dueDate.map .string)
    ++ Json.optionalMember "startDate" (t.startDate.map .string)
    ++ Json.optionalMember "endDate" (t.endDate.map .string)
    ++ Json.optionalMember "doneAt" (t.doneAt.map .string)
    ++ [("assignees", textsJson t.assignees), ("labels", textsJson t.labels)]
    ++ Json.optionalMember "project" (t.project.map .string)
    ++ [("reminders", textsJson t.reminders)]
    ++ Json.optionalMember "created" (t.created.map .string)
    ++ Json.optionalMember "updated" (t.updated.map .string)

end Task

end TaskQuery
