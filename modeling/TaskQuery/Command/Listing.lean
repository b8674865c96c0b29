/-
  TaskQuery — the command that lists tasks.

  A query that is rejected is reported, and all tasks are listed; only a strict
  request fails.

  * `ListRequest.arrangement` is the order and number of tasks that a request asks
    for, `ListRequest.listing` the list that it gets;
  * `Listing.print` is what is printed about a list, `listTasks` what the command prints.
-/
import TaskQuery.Arguments.Invocation
import TaskQuery.Command.Outcome

namespace TaskQuery

/-! ## Lists -/

/-- How many tasks are listed at most if nothing is said about it. -/
def defaultLimit : Count := ⟨50, by decide⟩

/-- The order and number of tasks that a request asks for. -/
def ListRequest.arrangement (r : ListRequest) : Arrangement where
  sort := r.sort
  reverse := r.reverse
  limit := if r.all then none else some (r.limit.getD defaultLimit).val

/-- The request with the settings in place of what is not given. -/
def ListRequest.withSettings (r : ListRequest) (s : Settings) : ListRequest :=
  { r with filter := r.filter <|> s.defaultFilter, limit := r.limit <|> s.limit }

/-- The list that a request gets. -/
def ListRequest.listing (r : ListRequest) (tasks : List Task) (now : Instant) : Listing :=
  let outcome := applyFilter Task.record (r.filter.getD "") tasks now
  { filter := r.filter, rejection := outcome.rejection, total := tasks.length,
    matched := outcome.kept.length, shown := r.arrangement.apply outcome.kept }

/-! ## Printing -/

/-- What is printed about a list: a JSON value, or a table with a line below it, and
    what is said about a query that is rejected. -/
def Listing.print (l : Listing) (ctx : Context) : Outcome :=
  if ctx.json then .printJson l.toJson
  else
    { output :=
        if ctx.quiet then ""
        else taskTable ctx.tableStyle l.shown
          ++ if l.shown = [] then "" else summaryLine l.shown.length l.matched l.total
      notice := match l.rejection with
        | some rejection =>
          rejectionReport ctx.colors rejection (tokenize (l.filter.getD ""))
            ++ "Showing all tasks.\n"
        | none => "" }

/-- What the command that lists tasks prints. -/
def listTasks (ctx : Context) (r : ListRequest) (tasks : List Task) : Outcome :=
  let listing := r.listing tasks ctx.now
  match listing.rejection, r.strict with
  | some rejection, true => .fail (.filter rejection)
  | _, _ => listing.print ctx

end TaskQuery
