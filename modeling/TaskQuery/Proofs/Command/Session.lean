/-
  TaskQuery — what a session shows.

  * `ListRequest.ofLine line limit`: the list that a line of a session asks for;
    `Session.answer_eq`: it is what the session prints for the line, with an empty line below;
  * `Session.intro_eq`: what is printed at the start;
  * `Session.answers_append`: what a session prints for a line does not depend on the lines
    before; `Session.answers_exit`: after a line that asks to leave nothing is printed;
  * `session_shows_lists`: a session shows what lists show.
-/
import Mathlib.Data.List.TakeWhile
import TaskQuery.Proofs.Command.Listing

namespace TaskQuery

variable {ctx : Context} {tasks : List Task} {limit : Count} {line : String} {now : Instant}
  {s : Session} {earlier lines : List (String × Instant)} {r : Rejection}

/-! ## Lines -/

/-- The list that a line asks for: not strict, in the order of the file, and up to a limit. -/
def ListRequest.ofLine (line : String) (limit : Count) : ListRequest where
  filter := some line
  strict := false
  sort := none
  reverse := false
  limit := some limit
  all := false

/-- What a session prints below a list. -/
def Context.lineBelow (ctx : Context) : String :=
  if ctx.quiet || ctx.json then "" else "\n"

namespace Session

/-- At the start, the number of tasks is told in green, unless the session is quiet or writes
    JSON. -/
theorem intro_eq (s : Session) : s.intro =
    if s.context.quiet || s.context.json then ""
    else inColor s.context.colors "32"
      (toString s.tasks.length ++ " tasks loaded. Enter a filter, or :q to quit.") ++ "\n" := by
  unfold intro
  dsimp only
  rw [paint_eq_inColor rfl]
  rfl

/-- What is printed for a line is what is printed for its list, and an empty line. -/
theorem answer_eq (ctx : Context) (tasks : List Task) (limit : Count) (line : String)
    (now : Instant) :
    answer { context := ctx, tasks, limit := limit.val } line now =
      { listTasks { ctx with now } (.ofLine line limit) tasks with
        output := (listTasks { ctx with now } (.ofLine line limit) tasks).output
          ++ ctx.lineBelow } := by
  rw [listTasks_lenient rfl]
  unfold answer Listing.print Context.lineBelow
  cases hjson : ctx.json with
  | true =>
    simp only [hjson, if_true, Bool.or_true, String.append_empty]
    rfl
  | false =>
    cases hquiet : ctx.quiet with
    | true =>
      simp only [hjson, hquiet, if_true, Bool.or_false, String.append_empty]
      rfl
    | false =>
      simp only [hjson, hquiet, Bool.or_false, Bool.false_eq_true, if_false]
      rfl

/-! ## Sequences of lines -/

theorem answers_append (h : ∀ p ∈ earlier, isExit p.1 = false) :
    s.answers (earlier ++ lines) = s.answers earlier ++ s.answers lines := by
  have hstays : ∀ p ∈ earlier, (!isExit p.1) = true := by simpa using h
  have hearlier := List.takeWhile_eq_self_iff.2 hstays
  rw [answers, answers, answers, List.takeWhile_append_of_pos hstays, List.map_append, hearlier]

theorem answers_exit (h : isExit line = true) : s.answers ((line, now) :: lines) = [] := by
  simp [answers, h]

theorem answers_cons (h : isExit line = false) :
    s.answers ((line, now) :: lines) = s.answer line now :: s.answers lines := by
  simp [answers, h]

theorem answer_fault : (s.answer line now).fault = none := by
  unfold answer
  dsimp only
  split <;> rfl

end Session

/-- **A session shows what lists show.**  Unless it is quiet or writes JSON, its output begins with
    the number of tasks; for every line up to the first that asks to leave, it goes on with the
    list of that line and an empty line below; and what is said about the lines is what is said
    about these lists.  What is printed for a line does not depend on those before it, and after a
    line that asks to leave nothing is printed.  A line that is rejected is reported, all tasks
    are its list, and the session goes on. -/
theorem session_shows_lists (ctx : Context) (tasks : List Task) (limit : Count) :
    let s : Session := { context := ctx, tasks, limit := limit.val }
    let request (line : String) : ListRequest := .ofLine line limit
    let list (line : String) (now : Instant) : Outcome :=
      listTasks { ctx with now } (request line) tasks
    let plain := ctx.quiet || ctx.json
    let start := if plain then "" else inColor ctx.colors "32"
      (toString tasks.length ++ " tasks loaded. Enter a filter, or :q to quit.") ++ "\n"
    let below := if plain then "" else "\n"
    (∀ lines, let entered := lines.takeWhile fun p => !Session.isExit p.1
      (s.transcript lines).output =
        start ++ String.join (entered.map fun p => (list p.1 p.2).output ++ below) ∧
      (s.transcript lines).notice = String.join (entered.map fun p => (list p.1 p.2).notice)) ∧
    (∀ earlier, (∀ p ∈ earlier, Session.isExit p.1 = false) →
      (∀ lines, s.answers (earlier ++ lines) = s.answers earlier ++ s.answers lines) ∧
      ∀ line now lines, Session.isExit line = true →
        s.answers (earlier ++ (line, now) :: lines) = s.answers earlier) ∧
    ∀ line now r, parseQuery line now = .error r →
      (request line).listing tasks now =
        { filter := some line, rejection := some r, total := tasks.length,
          matched := tasks.length, shown := tasks.take limit.val } ∧
      (request line).Reports { ctx with now } tasks (some r) ∧
      (s.answer line now).fault = none ∧
      (Session.isExit line = false → ∀ lines,
        s.answers ((line, now) :: lines) = s.answer line now :: s.answers lines) := by
  intro s request list plain start below
  refine ⟨fun lines => ?_, fun earlier h => ⟨fun lines => ?_, ?_⟩,
    fun line now r h => ⟨?_, ?_, ?_, ?_⟩⟩
  · constructor
    · simp only [Session.transcript, Session.intro_eq, Session.answers, List.map_map,
        Function.comp_def, s, Session.answer_eq]
      rfl
    · simp only [Session.transcript, Session.answers, List.map_map, Function.comp_def, s,
        Session.answer_eq]
      rfl
  · exact Session.answers_append h
  · intro line now lines hexit
    rw [Session.answers_append h, Session.answers_exit hexit, List.append_nil]
  · exact ListRequest.listing_of_rejected h
  · have hreports : (request line).Reports { ctx with now } tasks (rejection? line now) :=
      ListRequest.reports (listTasks_lenient rfl)
    rwa [rejection?_eq_some_iff.2 h] at hreports
  · exact Session.answer_fault
  · exact fun hexit lines => Session.answers_cons hexit

/-- A session of two tasks in colours: a line keeps one of them, a line without a value is rejected,
    and the third one asks to leave. -/
theorem session_shows_lists_rejected :
    let ctx : Context := { colors := true, now := ⟨0, 0⟩ }
    let tasks : List Task := [{ id := "a", done := true }, { id := "b" }]
    let s : Session := { context := ctx, tasks, limit := 50 }
    let request (line : String) := ListRequest.ofLine line ⟨50, by decide⟩
    let list (line : String) (now : Instant) := listTasks { ctx with now } (request line) tasks
    let entered : List (String × Instant) := [("done = true", ⟨5, 0⟩), ("project =", ⟨7, 0⟩)]
    (∀ p ∈ entered, Session.isExit p.1 = false) ∧ Session.isExit " quit " = true ∧
    parseQuery "project =" ⟨7, 0⟩ = .error ⟨.missingValue .project .eq, 2⟩ ∧
    (s.transcript (entered ++ [(" quit ", ⟨9, 0⟩), ("done", ⟨9, 0⟩)])).output =
      "\x1b[32m2 tasks loaded. Enter a filter, or :q to quit.\x1b[39m\n"
        ++ ((list "done = true" ⟨5, 0⟩).output ++ "\n"
        ++ ((list "project =" ⟨7, 0⟩).output ++ "\n")) ∧
    ((request "done = true").listing tasks ⟨5, 0⟩).shown = [{ id := "a", done := true }] ∧
    ((request "project =").listing tasks ⟨7, 0⟩).shown = tasks ∧
    (request "project =").Reports { ctx with now := ⟨7, 0⟩ } tasks
      (some ⟨.missingValue .project .eq, 2⟩) ∧
    (∀ lines, s.answers (("project =", ⟨7, 0⟩) :: lines) =
      s.answer "project =" ⟨7, 0⟩ :: s.answers lines) ∧
    ∀ lines, s.answers (entered ++ (" quit ", ⟨9, 0⟩) :: lines) = s.answers entered := by
  intro ctx tasks s request list entered
  have hstays : ∀ p ∈ entered, Session.isExit p.1 = false := by decide
  have hexit : Session.isExit " quit " = true := by decide
  have hrejected : parseQuery "project =" ⟨7, 0⟩ = .error ⟨.missingValue .project .eq, 2⟩ := by rfl
  obtain ⟨hprinted, hlines, hreported⟩ := session_shows_lists ctx tasks ⟨50, by decide⟩
  obtain ⟨hlisting, hreports, -, hgoesOn⟩ := hreported _ _ _ hrejected
  have hleft : (entered ++ [(" quit ", (⟨9, 0⟩ : Instant)), ("done", ⟨9, 0⟩)]).takeWhile
      (fun p => !Session.isExit p.1) = entered := by decide
  have hsecond : Session.isExit "project =" = false :=
    hstays ("project =", ⟨7, 0⟩) (List.mem_cons_of_mem _ List.mem_cons_self)
  have hfirst : (applyFilter Task.record "done = true" tasks ⟨5, 0⟩).kept =
      [{ id := "a", done := true }] := by rfl
  refine ⟨hstays, hexit, hrejected, ?_, ?_, ?_, hreports, hgoesOn hsecond,
    fun lines => (hlines entered hstays).2 _ _ lines hexit⟩
  · have hstart : inColor true "32" (toString 2 ++ " tasks loaded. Enter a filter, or :q to quit.")
        ++ "\n" = "\x1b[32m2 tasks loaded. Enter a filter, or :q to quit.\x1b[39m\n" := by decide
    rw [(hprinted _).1, hleft, ← hstart, List.map_cons, List.map_cons, List.map_nil,
      String.join_cons, String.join_cons, String.join_nil, String.append_empty]
    rfl
  · rw [ListRequest.listing_shown, show (request "done = true").filter.getD "" = "done = true" from rfl,
      hfirst]
    rfl
  · rw [hlisting]
    rfl

end TaskQuery
