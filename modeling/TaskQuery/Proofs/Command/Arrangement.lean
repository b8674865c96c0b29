/-
  TaskQuery — what lists show, and in what order.

  * `SortedAs sort tasks sorted`: the tasks are sorted by a key, or in their own order if no key
    is asked for;
  * `Arrangement.order_perm` and `Arrangement.order_pairwise`: an arrangement loses and invents
    nothing, and is in order, reversed or not;
  * `Arrangement.exists_hidden`: what is shown is followed by what is hidden;
  * `lists_show_tasks_in_order`: all of it, for every request.
-/
import TaskQuery.Proofs.Command.Listing
import TaskQuery.Proofs.Task.Sorting

namespace TaskQuery

/-! ## Arranged tasks -/

/-- Tasks are sorted by a key, or in their own order if there is none. -/
def SortedAs (sort : Option SortKey) (tasks sorted : List Task) : Prop :=
  match sort with
  | some key => SortedBy key tasks sorted
  | none => sorted = tasks

namespace Arrangement

variable (a : Arrangement) (tasks : List Task)

theorem sortedAs_sorted : SortedAs a.sort tasks (a.sorted tasks) := by
  unfold SortedAs sorted
  cases a.sort with
  | none => rfl
  | some key => exact sortedBy_sortTasks key tasks

theorem sorted_perm : (a.sorted tasks).Perm tasks := by
  unfold sorted
  cases a.sort with
  | none => exact .refl tasks
  | some key => exact sortTasks_perm key tasks

theorem order_perm : (a.order tasks).Perm tasks := by
  rw [order_eq]
  split
  · exact (List.reverse_perm _).trans (a.sorted_perm tasks)
  · exact a.sorted_perm tasks

/-- Arranged tasks are in order: in that of their key, or reversed in the opposite one. -/
theorem order_pairwise {key : SortKey} (hkey : a.sort = some key) :
    (a.order tasks).Pairwise fun s t =>
      ¬ if a.reverse then key.Precedes s t else key.Precedes t s := by
  have hsorted : SortedBy key tasks (a.sorted tasks) := by
    have h := a.sortedAs_sorted tasks
    rwa [hkey] at h
  rw [order_eq]
  by_cases hreverse : a.reverse
  · simp only [if_pos hreverse]
    exact List.pairwise_reverse.2 hsorted.pairwise
  · simp only [if_neg hreverse]
    exact hsorted.pairwise

/-- What is shown is the front of the arranged tasks, as long as the limit says. -/
theorem exists_hidden : ∃ hidden, a.order tasks = a.apply tasks ++ hidden ∧
    (a.apply tasks).length = match a.limit with
      | some limit => min limit tasks.length
      | none => tasks.length := by
  have hlength := (a.order_perm tasks).length_eq
  unfold apply
  cases a.limit with
  | none => exact ⟨[], (List.append_nil _).symm, hlength⟩
  | some limit =>
    refine ⟨(a.order tasks).drop limit, (List.take_append_drop limit _).symm, ?_⟩
    simp only [List.length_take, hlength]

end Arrangement

/-! ## Lists -/

/-- What a list is about: the tasks that satisfy the query, or all if it is rejected. -/
theorem applyFilter_kept (query : String) (tasks : List Task) (now : Instant) :
    match parseQuery query now with
    | .ok filter => (applyFilter Task.record query tasks now).kept =
        tasks.filter fun t => keeps filter t.record
    | .error _ => (applyFilter Task.record query tasks now).kept = tasks := by
  unfold applyFilter
  cases parseQuery query now <;> rfl

/-- **A list shows the right tasks in the right order.**  Unless a strict request is rejected, a
    table of the tasks that are shown is printed, with a line that counts them below, or else a
    JSON value, and a rejection is told of.  The list is of the tasks that satisfy the query, or of
    all tasks if it is rejected; these are sorted by the key, if there is one, and then reversed,
    if that is asked for.  Of these the first are shown, as many as the limit says, or all.  So
    none that is hidden sorts before one that is shown. -/
theorem lists_show_tasks_in_order (ctx : Context) (r : ListRequest) (tasks : List Task) :
    let query := r.filter.getD ""
    let listing := r.listing tasks ctx.now
    (match rejection? query ctx.now, r.strict with
      | some rejection, true => listTasks ctx r tasks = .fail (.filter rejection)
      | report, _ => listing.rejection = report ∧ listTasks ctx r tasks =
          { output :=
              if ctx.json then listing.toJson.pretty ++ "\n"
              else if ctx.quiet then ""
              else taskTable ctx.tableStyle listing.shown
                ++ if listing.shown = [] then ""
                  else summaryLine listing.shown.length listing.matched tasks.length
            notice :=
              if ctx.json then ""
              else report.elim "" fun rejection => rejection.notice ctx.colors query }) ∧
    ∃ matched sorted ordered hidden : List Task,
      (match parseQuery query ctx.now with
        | .ok filter => matched = tasks.filter fun t => keeps filter t.record
        | .error _ => matched = tasks) ∧
      listing.matched = matched.length ∧
      SortedAs r.sort matched sorted ∧
      ordered = (if r.reverse then sorted.reverse else sorted) ∧
      ordered.Perm matched ∧
      ordered = listing.shown ++ hidden ∧
      listing.shown.length =
        (if r.all then matched.length else min (r.limit.getD defaultLimit).val matched.length) ∧
      ∀ key, r.sort = some key → ∀ s ∈ listing.shown, ∀ t ∈ hidden,
        ¬ if r.reverse then key.Precedes s t else key.Precedes t s := by
  intro query listing
  constructor
  · have hreport : listing.rejection = rejection? query ctx.now :=
      r.listing_rejection tasks ctx.now
    have hprint := listing.print_eq ctx
    cases hquery : rejection? query ctx.now with
    | none =>
      rw [hreport.trans hquery] at hprint
      have hlist : listTasks ctx r tasks = listing.print ctx := by rw [listTasks_eq, hquery]
      exact ⟨hreport.trans hquery, hlist.trans hprint⟩
    | some rejection =>
      rw [hreport.trans hquery] at hprint
      cases hstrict : r.strict with
      | true => rw [listTasks_eq, hquery, hstrict]
      | false => exact ⟨hreport.trans hquery, (listTasks_lenient hstrict).trans hprint⟩
  · let matched := (applyFilter Task.record query tasks ctx.now).kept
    obtain ⟨hidden, hhidden, hlength⟩ := r.arrangement.exists_hidden matched
    refine ⟨matched, r.arrangement.sorted matched, r.arrangement.order matched, hidden,
      applyFilter_kept query tasks ctx.now, rfl, r.arrangement.sortedAs_sorted matched, rfl,
      r.arrangement.order_perm matched, hhidden, ?_, fun key hkey s hs t ht => ?_⟩
    · rw [show listing.shown = r.arrangement.apply matched from rfl, hlength]
      cases hall : r.all <;> simp [ListRequest.arrangement, hall]
    · have hkey' : r.arrangement.sort = some key := hkey
      have hpairwise := r.arrangement.order_pairwise matched hkey'
      rw [hhidden] at hpairwise
      exact (List.pairwise_append.1 hpairwise).2.2 s hs t ht

/-- Dates in two spellings, with a text that is none behind them. -/
theorem lists_show_tasks_in_order_by_due_date :
    let later : Task := { id := "1", dueDate := some "2024-05-03" }
    let vague : Task := { id := "2", dueDate := some "soon" }
    let earlier : Task := { id := "3", dueDate := some "2024-05-01T08:00:00Z" }
    let request : ListRequest :=
      { filter := some "done = false", sort := some .due, limit := some ⟨2, by decide⟩ }
    let tasks := [later, vague, { id := "4", done := true }, earlier]
    let ctx : Context := { now := ⟨0, 0⟩ }
    let listing := request.listing tasks ctx.now
    request.sort = some .due ∧ listing.shown = [earlier, later] ∧
    (listTasks ctx request tasks).output =
      taskTable ctx.tableStyle [earlier, later] ++ "2 of 3 matching tasks shown (4 total)\n" ∧
    ∃ hidden : List Task, vague ∈ hidden ∧
      ∀ s ∈ listing.shown, ∀ t ∈ hidden, ¬ SortKey.due.Precedes t s := by
  intro later vague earlier request tasks ctx listing
  have hfilter : request.filter.getD "" = "done = false" := rfl
  have hkept : (applyFilter Task.record "done = false" tasks ctx.now).kept =
      [later, vague, earlier] := by rfl
  have hsorted : sortTasks .due [later, vague, earlier] = [earlier, later, vague] := by
    have hvague : (SortKey.due.compare later vague).isLE = true := by decide +kernel
    have hlater : (SortKey.due.compare later earlier).isLE = false := by decide +kernel
    simp [sortTasks, List.mergeSort, hvague, hlater]
  have hshown : listing.shown = [earlier, later] := by
    rw [ListRequest.listing_shown, hfilter, hkept]
    change (sortTasks .due [later, vague, earlier]).take 2 = _
    rw [hsorted]
    rfl
  have hmatched : listing.matched = 3 := by
    rw [ListRequest.listing_matched, hfilter, hkept]
    rfl
  have hquery : parseQuery "done = false" ctx.now =
      .ok (some (.condition ⟨.done, .eq, .bool false⟩)) := by rfl
  have haccepted : rejection? "done = false" ctx.now = none := by rw [rejection?, hquery]
  obtain ⟨hlist, matched, sorted, ordered, hidden, hkeeps, -, -, -, hperm, hordered, -,
    hbefore⟩ := lists_show_tasks_in_order ctx request tasks
  refine ⟨rfl, hshown, ?_, hidden, ?_, hbefore .due rfl⟩
  · rw [hfilter, haccepted] at hlist
    rw [hlist.2]
    change taskTable ctx.tableStyle listing.shown ++
      (if listing.shown = [] then "" else summaryLine listing.shown.length listing.matched 4) = _
    rw [hshown, hmatched]
    have hsummary : summaryLine 2 3 4 = "2 of 3 matching tasks shown (4 total)\n" := by decide
    rw [← hsummary]
    rfl
  · have hvague : vague ∈ listing.shown ++ hidden := by
      rw [hfilter, hquery] at hkeeps
      rw [← hordered, hperm.mem_iff, hkeeps]
      exact List.mem_filter.2 ⟨by simp [tasks], by rfl⟩
    rw [hshown] at hvague
    exact (List.mem_append.1 hvague).resolve_left (by decide)

end TaskQuery
