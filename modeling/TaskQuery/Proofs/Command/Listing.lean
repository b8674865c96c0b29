/-
  TaskQuery — what is printed about a list of tasks.

  * `inColor colors code text`: a text between the sequences of a colour; `paint_eq_inColor`: so
    texts are painted;
  * `Rejection.notice`: what is said about a rejection: its message, its position and a marker;
  * `listTasks_eq`: lists are printed, unless a strict request is rejected; `Listing.print_eq` and
    `Listing.toJson_eq_object`: what is printed;
  * `ListRequest.Reports ctx tasks report`: what is printed for a request tells of a rejection, by
    its message and its position, or of none; `ListRequest.reports`: it tells of the rejection of
    the query.
-/
import TaskQuery.Command.Session
import TaskQuery.Proofs.Query.TwoInstants

namespace TaskQuery

variable {ctx : Context} {request : ListRequest} {tasks : List Task} {now : Instant}
  {r : Rejection} {l : Listing} {query : String} {report report' : Option Rejection}

/-! ## Lists -/

theorem applyFilter_rejection {α : Type} (view : α → Record) (query : String) (records : List α)
    (now : Instant) : (applyFilter view query records now).rejection = rejection? query now := by
  unfold applyFilter rejection?
  cases parseQuery query now <;> rfl

theorem ListRequest.listing_rejection (request : ListRequest) (tasks : List Task)
    (now : Instant) : (request.listing tasks now).rejection =
      rejection? (request.filter.getD "") now :=
  applyFilter_rejection Task.record _ tasks now

theorem ListRequest.listing_shown : (request.listing tasks now).shown =
    request.arrangement.apply
      (applyFilter Task.record (request.filter.getD "") tasks now).kept := rfl

theorem ListRequest.listing_matched : (request.listing tasks now).matched =
    (applyFilter Task.record (request.filter.getD "") tasks now).kept.length := rfl

/-- A query that is rejected keeps all tasks. -/
theorem ListRequest.listing_of_rejected (h : parseQuery (request.filter.getD "") now = .error r) :
    request.listing tasks now =
      { filter := request.filter, rejection := some r, total := tasks.length,
        matched := tasks.length, shown := request.arrangement.apply tasks } := by
  rw [listing, applyFilter, h]

/-! ## Printing -/

/-- A text in the colour of a code, where colours are on. -/
def inColor (colors : Bool) (code text : String) : String :=
  if colors then "\x1b[" ++ code ++ "m" ++ text ++ "\x1b[39m" else text

theorem paint_eq_inColor {style : Style} (h : style.codes.2 = "39") (colors : Bool)
    (text : String) : paint colors [style] text = inColor colors style.codes.1 text := by
  cases colors with
  | false => rfl
  | true => simp [paint, inColor, Style.apply, escapeSequence, h]

/-- What is said about a rejection: its message and its position, and a marker in the query. -/
def Rejection.notice (r : Rejection) (colors : Bool) (query : String) : String :=
  inColor colors "31" (r.message ++ " (at token " ++ toString r.position ++ ")") ++ "\n"
    ++ errorMarker colors r.position (tokenize query) ++ "Showing all tasks.\n"

theorem Rejection.notice_eq (r : Rejection) (colors : Bool) (query : String) :
    r.notice colors query =
      rejectionReport colors r (tokenize query) ++ "Showing all tasks.\n" := by
  rw [notice, rejectionReport, paint_eq_inColor rfl]
  simp [unlines, Style.codes]

theorem Rejection.notice_ne_empty (r : Rejection) (colors : Bool) (query : String) :
    r.notice colors query ≠ "" := by
  intro h
  have hlength := congrArg String.length h
  simp [notice] at hlength

/-- Lists are printed, unless the query of a strict request is rejected. -/
theorem listTasks_eq (ctx : Context) (request : ListRequest) (tasks : List Task) :
    listTasks ctx request tasks =
      match rejection? (request.filter.getD "") ctx.now, request.strict with
      | some r, true => .fail (.filter r)
      | _, _ => (request.listing tasks ctx.now).print ctx := by
  rw [← request.listing_rejection tasks ctx.now]
  rfl

theorem listTasks_lenient (h : request.strict = false) :
    listTasks ctx request tasks = (request.listing tasks ctx.now).print ctx := by
  rw [listTasks_eq, h]
  cases rejection? (request.filter.getD "") ctx.now <;> rfl

namespace Listing

/-- A JSON value tells everything about a list; beside a table, a query that is rejected is
    reported. -/
theorem print_eq (l : Listing) (ctx : Context) : l.print ctx =
    { output :=
        if ctx.json then l.toJson.pretty ++ "\n"
        else if ctx.quiet then ""
        else taskTable ctx.tableStyle l.shown
          ++ if l.shown = [] then "" else summaryLine l.shown.length l.matched l.total
      notice :=
        if ctx.json then ""
        else l.rejection.elim "" fun r => r.notice ctx.colors (l.filter.getD "") } := by
  unfold print
  cases ctx.json with
  | true => rfl
  | false =>
    cases l.rejection with
    | none => rfl
    | some r =>
      rw [Option.elim_some, Rejection.notice_eq]
      rfl

theorem print_fault : (l.print ctx).fault = none := by
  rw [print_eq]

/-- In a JSON value, a member of its own tells of a rejection. -/
theorem toJson_eq_object (l : Listing) : ∃ members, l.toJson = .object members ∧
    members.lookup "filter_error" = l.rejection.map fun r =>
      .object [("message", .string r.message), ("position", .integer r.position)] := by
  refine ⟨_, rfl, ?_⟩
  cases l.rejection <;> rfl

end Listing

/-- A strict request fails exactly if its query is rejected. -/
theorem listTasks_strict_fault (h : request.strict = true) :
    (listTasks ctx request tasks).fault =
      (rejection? (request.filter.getD "") ctx.now).map CommandFault.filter := by
  rw [listTasks_eq, h]
  cases rejection? (request.filter.getD "") ctx.now with
  | none => exact Listing.print_fault
  | some r => rfl

/-! ## Reports -/

namespace ListRequest

/-- What is printed for a request tells of a rejection, or of none: by a member of the JSON value
    with the message and the position, or else by a notice with these. -/
def Reports (request : ListRequest) (ctx : Context) (tasks : List Task)
    (report : Option Rejection) : Prop :=
  if ctx.json then
    ∃ members, (request.listing tasks ctx.now).toJson = .object members ∧
      (listTasks ctx request tasks).output = (Json.object members).pretty ++ "\n" ∧
      members.lookup "filter_error" = report.map fun r =>
        .object [("message", .string r.message), ("position", .integer r.position)]
  else
    (listTasks ctx request tasks).notice =
      report.elim "" fun r => r.notice ctx.colors (request.filter.getD "")

/-- **What is printed tells of the rejection of the query**, or of none if it is accepted. -/
theorem reports
    (h : listTasks ctx request tasks = (request.listing tasks ctx.now).print ctx) :
    request.Reports ctx tasks (rejection? (request.filter.getD "") ctx.now) := by
  rw [← request.listing_rejection tasks, Reports, h]
  split
  · rename_i hjson
    obtain ⟨members, hobject, hmember⟩ := (request.listing tasks ctx.now).toJson_eq_object
    refine ⟨members, hobject, ?_, hmember⟩
    rw [Listing.print_eq, if_pos hjson, hobject]
  · rename_i hjson
    rw [Listing.print_eq]
    exact if_neg hjson

/-- A report of a rejection is not one of none. -/
theorem Reports.isSome_eq (h : request.Reports ctx tasks report)
    (h' : request.Reports ctx tasks report') : report.isSome = report'.isSome := by
  unfold Reports at h h'
  split at h
  · rename_i hjson
    rw [if_pos hjson] at h'
    obtain ⟨members, hobject, -, hmember⟩ := h
    obtain ⟨members', hobject', -, hmember'⟩ := h'
    obtain rfl := Json.object.inj (hobject.symm.trans hobject')
    have hsame := congrArg Option.isSome (hmember.symm.trans hmember')
    rwa [Option.isSome_map, Option.isSome_map] at hsame
  · rename_i hjson
    rw [if_neg hjson] at h'
    have hsame := h.symm.trans h'
    cases report with
    | none =>
      cases report' with
      | none => rfl
      | some r' => exact absurd hsame.symm (r'.notice_ne_empty _ _)
    | some r =>
      cases report' with
      | none => exact absurd hsame (r.notice_ne_empty _ _)
      | some r' => rfl

theorem reports_none_iff (hstrict : request.strict = false) :
    request.Reports ctx tasks none ↔ rejection? (request.filter.getD "") ctx.now = none := by
  have hreports : request.Reports ctx tasks (rejection? (request.filter.getD "") ctx.now) :=
    reports (listTasks_lenient hstrict)
  refine ⟨fun h => ?_, fun h => h ▸ hreports⟩
  have hsame := hreports.isSome_eq h
  simpa using hsame

end ListRequest

end TaskQuery
