/-
  TaskQuery — one answer to a query.

  Queries are read by the command that checks them, by lists, and when the default query is
  set.

  * `checkQuery_fault`, `assignDefault_eq_ok_iff` and, for lists, `listTasks_strict_fault` and
    `ListRequest.reports_none_iff`: each of them goes by `rejection?`;
  * `RejectedEverywhere query r`: the query is rejected for `r`, whatever reads it;
  * `entry_points_agree`: all of them accept the same queries, at any time, and reject the
    others for the same.
-/
import Mathlib.Tactic.TFAE
import TaskQuery.Command.QueryReport
import TaskQuery.Proofs.Command.Listing
import TaskQuery.Proofs.Settings.DefaultFilter

namespace TaskQuery

variable {ctx : Context} {query : String} {showTokens : Bool} {request : ListRequest}
  {tasks : List Task} {s : Settings} {now : Instant} {r : Rejection}

/-! ## What reads a query -/

theorem checkQuery_fault : (checkQuery ctx query showTokens).fault =
    (rejection? query ctx.now).map CommandFault.filter := by
  unfold checkQuery rejection?
  dsimp only
  cases parseQuery query ctx.now with
  | ok e? =>
    cases ctx.json <;> cases ctx.quiet <;> rfl
  | error r =>
    cases ctx.json <;> cases ctx.quiet <;> rfl

theorem assignDefault_eq_ok_iff :
    (∃ s', s.assignNamed "filter.default" query now = .ok s') ↔ rejection? query now = none := by
  rw [assignNamed_default, rejection?]
  cases parseQuery query now <;> simp

theorem assignDefault_eq_error (h : rejection? query now = some r) :
    s.assignNamed "filter.default" query now = .error (.invalidFilter query r) := by
  rw [assignNamed_default, rejection?_eq_some_iff.1 h]

/-- A list that fails if its query is rejected. -/
def ListRequest.strictFor (request : ListRequest) (query : String) : ListRequest :=
  { request with filter := some query, strict := true }

/-- A list that is shown in any case. -/
def ListRequest.lenientFor (request : ListRequest) (query : String) : ListRequest :=
  { request with filter := some query, strict := false }

theorem listTasks_strictFor_fault : (listTasks ctx (request.strictFor query) tasks).fault =
    (rejection? query ctx.now).map CommandFault.filter := by
  rw [listTasks_strict_fault rfl]
  rfl

/-! ## Agreement -/

/-- A query is rejected for `r`, whatever reads it: by the command that checks it and by a
    strict list; by the setting of the default query, with the sentence for `r` in its own;
    and a list that is shown all the same tells of `r`, by its message and its position. -/
structure RejectedEverywhere (query : String) (r : Rejection) : Prop where
  parsed : ∀ now, parseQuery query now = .error r
  checked : ∀ ctx showTokens, (checkQuery ctx query showTokens).fault = some (.filter r)
  strict : ∀ ctx (request : ListRequest) tasks,
    (listTasks ctx (request.strictFor query) tasks).fault = some (.filter r)
  assigned : ∀ (s : Settings) now,
    s.assignNamed "filter.default" query now = .error (.invalidFilter query r)
  assignedMessage : (ConfigurationFault.assignment (.invalidFilter query r)).message =
    "'" ++ query ++ "' is not a valid filter: " ++ r.message
  lenient : ∀ (ctx : Context) (request : ListRequest) tasks,
    (listTasks ctx (request.lenientFor query) tasks).fault = none ∧
      ((request.lenientFor query).listing tasks ctx.now).rejection = some r ∧
      (request.lenientFor query).Reports ctx tasks (some r)

theorem rejectedEverywhere (h : parseQuery query now = .error r) : RejectedEverywhere query r := by
  have hr (now' : Instant) : rejection? query now' = some r := by
    rw [rejection?_eq query now' now, rejection?_eq_some_iff, h]
  refine ⟨fun now' => rejection?_eq_some_iff.1 (hr now'), fun ctx showTokens => ?_,
    fun ctx request tasks => ?_, fun s now' => assignDefault_eq_error (hr now'), rfl,
    fun ctx request tasks => ?_⟩
  · rw [checkQuery_fault, hr]
    rfl
  · rw [listTasks_strictFor_fault, hr]
    rfl
  · have hlist : listTasks ctx (request.lenientFor query) tasks =
        ((request.lenientFor query).listing tasks ctx.now).print ctx := listTasks_lenient rfl
    have hreports : (request.lenientFor query).Reports ctx tasks (rejection? query ctx.now) :=
      ListRequest.reports hlist
    rw [hr] at hreports
    refine ⟨?_, (ListRequest.listing_rejection ..).trans (hr ctx.now), hreports⟩
    rw [hlist]
    exact Listing.print_fault

/-- **All that reads queries accepts the same ones, at any time.**  To be accepted by the command
    that checks queries, by a strict list and as a default query, and to be listed with a report
    of no rejection, is all the same, each at an instant and in a context of its own.
    What is rejected is rejected for the same everywhere.  And at two instants a query is
    rejected for the same, or empty, or has trees alike but for the values of an
    unquoted `now`. -/
theorem entry_points_agree (query : String) :
    (∀ (checking strictly leniently : Context) (showTokens : Bool) (request request' : ListRequest)
        (tasks tasks' : List Task) (s : Settings) (now : Instant),
      List.TFAE [
        (checkQuery checking query showTokens).fault = none,
        (listTasks strictly (request.strictFor query) tasks).fault = none,
        ∃ s', s.assignNamed "filter.default" query now = .ok s',
        (request'.lenientFor query).Reports leniently tasks' none]) ∧
    (∀ now r, parseQuery query now = .error r → RejectedEverywhere query r) ∧
    ∀ now now',
      (∃ r, parseQuery query now = .error r ∧ parseQuery query now' = .error r) ∨
      (parseQuery query now = .ok none ∧ parseQuery query now' = .ok none) ∨
      ∃ e e', parseQuery query now = .ok (some e) ∧ parseQuery query now' = .ok (some e') ∧
        Twins now now' (tokenize query) e e' := by
  refine ⟨?_, fun now r => rejectedEverywhere, parseQuery_twins query⟩
  intro checking strictly leniently showTokens request request' tasks tasks' s now
  -- each of the four goes by the rejection at its own instant, which is the one at `now`
  have hchecked : (checkQuery checking query showTokens).fault = none ↔
      rejection? query now = none := by
    rw [checkQuery_fault, Option.map_eq_none_iff, rejection?_eq query checking.now now]
  have hstrict : (listTasks strictly (request.strictFor query) tasks).fault = none ↔
      rejection? query now = none := by
    rw [listTasks_strictFor_fault, Option.map_eq_none_iff, rejection?_eq query strictly.now now]
  have hlenient : (request'.lenientFor query).Reports leniently tasks' none ↔
      rejection? query now = none := by
    rw [ListRequest.reports_none_iff rfl, rejection?_eq _ leniently.now now]
    rfl
  tfae_have 1 ↔ 2 := hchecked.trans hstrict.symm
  tfae_have 2 ↔ 3 := hstrict.trans assignDefault_eq_ok_iff.symm
  tfae_have 3 ↔ 4 := assignDefault_eq_ok_iff.trans hlenient.symm
  tfae_finish

/-- A query without a value is rejected for that everywhere. -/
theorem entry_points_agree_missing_value :
    parseQuery "project =" ⟨0, 0⟩ = .error ⟨.missingValue .project .eq, 2⟩ ∧
    RejectedEverywhere "project =" ⟨.missingValue .project .eq, 2⟩ := by
  have h : parseQuery "project =" ⟨0, 0⟩ = .error ⟨.missingValue .project .eq, 2⟩ := by rfl
  exact ⟨h, (entry_points_agree "project =").2.1 _ _ h⟩

end TaskQuery
