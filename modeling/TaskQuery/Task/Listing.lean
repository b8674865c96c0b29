/-
  TaskQuery — which tasks a list shows, and in what order.

  A query that is rejected keeps every task.  The tasks that are kept are sorted
  by a key, those without the key last and those with equal keys in the order of
  the file; then they may be reversed, and then cut off at a limit.

  * `applyFilter` gives the records that a query keeps, and the rejection;
  * `SortKey.compare` is the order by a key, `sortTasks` sorts by it;
  * `Arrangement.apply` sorts, reverses and cuts off;
  * `Listing` is a list with what it was made from, and `Listing.toJson` the same
    as JSON;
  * `sortTasks_perm`: sorting loses and invents nothing.
-/
import TaskQuery.Query.Parsing
import TaskQuery.Task.Basic

namespace TaskQuery

/-! ## Filtering -/

/-- What a query keeps. -/
structure FilterOutcome (α : Type) where
  /-- The records that are kept. -/
  kept : List α
  /-- The rejection of the query, in which case all records are kept. -/
  rejection : Option Rejection

/-- What a query keeps of some records at an instant. -/
def applyFilter (view : α → Record) (query : String) (records : List α) (now : Instant) :
    FilterOutcome α :=
  match parseQuery query now with
  | .ok filter => ⟨filterRecords filter view records, none⟩
  | .error rejection => ⟨records, some rejection⟩

/-! ## Sorting -/

/-- What tasks are sorted by. -/
inductive SortKey where
  /-- The due date, earliest first. -/
  | due
  /-- The priority, highest first. -/
  | priority
  /-- When the task was created, earliest first. -/
  | created
  /-- The title in lower case. -/
  | title
  deriving DecidableEq

/-- The order of two values that may be missing; a missing one comes last. -/
def missingLast (order : α → α → Ordering) : Option α → Option α → Ordering
  | none, none => .eq
  | none, some _ => .gt
  | some _, none => .lt
  | some a, some b => order a b

/-- The order of two tasks by a key. -/
def SortKey.compare (key : SortKey) (a b : Task) : Ordering :=
  match key with
  | due =>
    missingLast Instant.compare (a.dueDate.bind Instant.ofText?) (b.dueDate.bind Instant.ofText?)
  | priority => missingLast (fun p q => Ord.compare q.rank p.rank) a.priority b.priority
  | created =>
    missingLast Instant.compare (a.created.bind Instant.ofText?) (b.created.bind Instant.ofText?)
  | title => Ord.compare (Text.lowercase a.title) (Text.lowercase b.title)

/-- The tasks sorted by a key; tasks with equal keys keep their order. -/
def sortTasks (key : SortKey) (tasks : List Task) : List Task :=
  tasks.mergeSort fun a b => (key.compare a b).isLE

/-- Sorting loses and invents nothing. -/
theorem sortTasks_perm (key : SortKey) (tasks : List Task) : (sortTasks key tasks).Perm tasks :=
  List.mergeSort_perm tasks _

/-! ## Arranging -/

/-- How the tasks that are kept are arranged. -/
structure Arrangement where
  /-- What they are sorted by, if anything. -/
  sort : Option SortKey := none
  /-- Whether they are reversed. -/
  reverse : Bool := false
  /-- How many are shown at most; none if all are. -/
  limit : Option Nat := none

/-- The tasks in the order of an arrangement. -/
def Arrangement.order (a : Arrangement) (tasks : List Task) : List Task :=
  let sorted := match a.sort with
    | some key => sortTasks key tasks
    | none => tasks
  if a.reverse then sorted.reverse else sorted

/-- The tasks that an arrangement shows. -/
def Arrangement.apply (a : Arrangement) (tasks : List Task) : List Task :=
  match a.limit with
  | some limit => (a.order tasks).take limit
  | none => a.order tasks

/-! ## Lists -/

/-- A list of tasks with what it was made from. -/
structure Listing where
  /-- The query, if one was given. -/
  filter : Option String
  /-- The rejection of the query. -/
  rejection : Option Rejection
  /-- How many tasks there are. -/
  total : Nat
  /-- How many of them the query keeps. -/
  matched : Nat
  /-- The tasks that are shown. -/
  shown : List Task

/-- A rejection as a JSON value. -/
def Rejection.toJson (r : Rejection) : Json :=
  .object [("message", .string r.message), ("position", .integer r.position)]

/-- A list as a JSON value. -/
def Listing.toJson (l : Listing) : Json :=
  .object <|
    [("filter", (l.filter.map .string).getD .null)]
    ++ Json.optionalMember "filter_error" (l.rejection.map Rejection.toJson)
    ++ [("total", .integer l.total), ("matched", .integer l.matched),
      ("tasks", .array (l.shown.map Task.toJson))]

end TaskQuery
