/-
  TaskQuery — sessions, in which queries are read one after the other.

  Every line that is entered is a query of its own: its list is shown, or all tasks
  if it is rejected, until a line asks to leave.

  * `Session` is what a session is about, `Session.answer` what it prints for a
    line and `Session.transcript` what it prints for lines.
-/
import TaskQuery.Command.Listing

namespace TaskQuery

/-- What a session is about. -/
structure Session where
  /-- What concerns every command. -/
  context : Context
  /-- The tasks. -/
  tasks : List Task
  /-- How many tasks are shown at most. -/
  limit : Nat

namespace Session

/-- The words that ask to leave. -/
def exitWords : List String := [":q", "quit", "exit"]

/-- Whether a line asks to leave; blanks around the word do not count. -/
def isExit (line : String) : Bool :=
  String.ofList (Text.trim line.toList) ∈ exitWords

/-- What is printed at the start. -/
def intro (s : Session) : String :=
  if s.context.quiet || s.context.json then ""
  else
    let text := toString s.tasks.length ++ " tasks loaded. Enter a filter, or :q to quit."
    paint s.context.colors [.green] text ++ "\n"

/-- What a session prints for a line at an instant: the tasks that the line keeps, in
    the order of the file and up to the limit. -/
def answer (s : Session) (line : String) (now : Instant) : Outcome :=
  let ctx := { s.context with now }
  let total := s.tasks.length
  let outcome := applyFilter Task.record line s.tasks now
  let matched := outcome.kept.length
  let shown := outcome.kept.take s.limit
  if ctx.json then
    .printJson <| Listing.toJson
      { filter := some line, rejection := outcome.rejection, total, matched, shown }
  else
    { output :=
        if ctx.quiet then ""
        else taskTable ctx.tableStyle shown
          ++ (if shown = [] then "" else summaryLine shown.length matched total) ++ "\n"
      notice := match outcome.rejection with
        | some rejection =>
          rejectionReport ctx.colors rejection (tokenize line) ++ "Showing all tasks.\n"
        | none => "" }

/-- What a session prints for the lines up to the first that asks to leave, each
    with the instant at which it is entered. -/
def answers (s : Session) (lines : List (String × Instant)) : List Outcome :=
  (lines.takeWhile fun (line, _) => !isExit line).map fun (line, now) => s.answer line now

/-- Everything that a session prints for some lines. -/
def transcript (s : Session) (lines : List (String × Instant)) : Outcome where
  output := s.intro ++ String.join ((s.answers lines).map Outcome.output)
  notice := String.join ((s.answers lines).map Outcome.notice)

end Session

end TaskQuery
