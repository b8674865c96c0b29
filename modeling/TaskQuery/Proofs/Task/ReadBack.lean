/-
  TaskQuery — tasks that are written are read back.

  * `Task.slots` are the values of a task's attributes in order; `Task.ofJson?_toJson`: a task is
    read back from its JSON value, as every attribute is found under its key;
  * `Task.readable_toJson` and `Listing.readable_toJson`: nothing in these values is lost in their
    texts but numbers that are not read back themselves;
  * `Json.IsTextOf text v`: a text is one of a value; `Json.Readable.isTextOf_write`: so is every
    layout of it; `TaskFile.decode_of_isTextOf`: a task file is decoded from all its texts;
  * `written_tasks_decode`: so are the two shapes of task files, and the lists that are printed.
-/
import TaskQuery.Command.Outcome
import TaskQuery.Proofs.Json.Layout
import TaskQuery.Proofs.Lists
import TaskQuery.Task.Listing

namespace TaskQuery

open Json (Readable IsReadBack)

/-! ## Members -/

namespace Json

variable {key : String} {members more : List (String × Json)}

theorem membersNamed_append : membersNamed key (members ++ more) =
    membersNamed key members ++ membersNamed key more :=
  List.filterMap_append

@[simp] theorem membersNamed_nil : membersNamed key [] = [] := rfl

theorem membersNamed_cons (name : String) (v : Json) : membersNamed key ((name, v) :: members) =
    (if name = key then [v] else []) ++ membersNamed key members := by
  by_cases h : name = key <;> simp [membersNamed, h]

theorem membersNamed_optionalMember (name : String) (v : Option Json) :
    membersNamed key (optionalMember name v) = if name = key then v.toList else [] := by
  cases v with
  | none => simp [optionalMember]
  | some v => simp [optionalMember, membersNamed_cons]

/-- The values of all members are readable. -/
def AllReadable (depth : Nat) (members : List (String × Json)) : Prop :=
  ∀ m ∈ members, Readable depth m.2

variable {depth : Nat}

theorem allReadable_nil : AllReadable depth [] := by
  intro m hm
  cases hm

theorem allReadable_cons {name : String} {v : Json} :
    AllReadable depth ((name, v) :: members) ↔ Readable depth v ∧ AllReadable depth members :=
  List.forall_mem_cons

theorem allReadable_append : AllReadable depth (members ++ more) ↔
    AllReadable depth members ∧ AllReadable depth more :=
  List.forall_mem_append

theorem allReadable_optionalMember {α : Type} {value : Option α} {write : α → Json} (name : String)
    (h : ∀ a ∈ value, Readable depth (write a)) :
    AllReadable depth (optionalMember name (value.map write)) := by
  cases value with
  | none => exact allReadable_nil
  | some a => exact allReadable_cons.2 ⟨h a rfl, allReadable_nil⟩

end Json

/-! ## Attributes -/

theorem Json.toTexts?_textsJson (texts : List String) :
    Json.toTexts? (Task.textsJson texts) = some texts := by
  have hread : ∀ text, Json.toText? (.string text) = some text := fun _ => rfl
  exact mapM_map_of_inverse hread texts

namespace Task

/-- The values of the attributes of a task, in order; none for those that are left out. -/
def slots (t : Task) : List (Option Json) :=
  [some (.string t.id), some (.string t.title), some (.bool t.done),
    t.priority.map fun p => .string p.name, some (.number t.percentDone), t.dueDate.map .string,
    t.startDate.map .string, t.endDate.map .string, t.doneAt.map .string,
    some (textsJson t.assignees), some (textsJson t.labels), t.project.map .string,
    some (textsJson t.reminders), t.created.map .string, t.updated.map .string]

theorem slot_optional {α : Type} {slots : List (Option Json)} {index : Nat} {value : Option α}
    {write : α → Json} {read : Json → Option α} (h : slots[index]? = some (value.map write))
    (hread : ∀ a, Json.toOptional? read (write a) = some (some a)) :
    slot slots index none (Json.toOptional? read) = some value := by
  unfold slot
  rw [h]
  cases value with
  | none => rfl
  | some a => exact hread a

/-- A task is made from the values of its attributes. -/
theorem ofSlots?_slots (t : Task) : ofSlots? t.slots = some t := by
  have htext (index : Nat) (value : Option String)
      (h : t.slots[index]? = some (value.map Json.string)) :
      slot t.slots index none (Json.toOptional? Json.toText?) = some value :=
    slot_optional h fun _ => rfl
  have htexts (index : Nat) (texts : List String)
      (h : t.slots[index]? = some (some (textsJson texts))) :
      slot t.slots index [] Json.toTexts? = some texts := by
    unfold slot
    rw [h]
    exact Json.toTexts?_textsJson texts
  have hid : slot t.slots 0 "" Json.toText? = some t.id := rfl
  have htitle : slot t.slots 1 "" Json.toText? = some t.title := rfl
  have hdone : slot t.slots 2 false Json.toBool? = some t.done := rfl
  have hpriority : slot t.slots 3 none (Json.toOptional? Json.toPriority?) = some t.priority :=
    slot_optional rfl fun p => by cases p <;> rfl
  have hpercent : slot t.slots 4 (.zero false) Json.toNumber? = some t.percentDone := rfl
  simp only [ofSlots?, hid, htitle, hdone, hpriority, hpercent, htext 5 t.dueDate rfl,
    htext 6 t.startDate rfl, htext 7 t.endDate rfl, htext 8 t.doneAt rfl, htexts 9 t.assignees rfl,
    htexts 10 t.labels rfl, htext 11 t.project rfl, htexts 12 t.reminders rfl,
    htext 13 t.created rfl, htext 14 t.updated rfl, bind, Option.bind_some, pure]

/-- Attributes are found under their keys if no key occurs twice. -/
theorem mapM_uniqueMember? {members : List (String × Json)} {names : List String}
    {values : List (Option Json)}
    (h : names.map (fun key => Json.membersNamed key members) = values.map Option.toList) :
    names.mapM (uniqueMember? members) = some values := by
  induction names generalizing values with
  | nil => simp_all
  | cons key names ih =>
    cases values with
    | nil => simp at h
    | cons value values =>
      rw [List.map_cons, List.map_cons, List.cons.injEq] at h
      have hkey : uniqueMember? members key = some value := by
        unfold uniqueMember?
        rw [h.1]
        cases value <;> rfl
      rw [List.mapM_cons, hkey, ih h.2]
      rfl

/-- A task is read back from its JSON value. -/
theorem ofJson?_toJson (t : Task) : ofJson? t.toJson = some t := by
  obtain ⟨members, hjson, hmembers⟩ : ∃ members, t.toJson = .object members ∧
      keys.map (fun key => Json.membersNamed key members) = t.slots.map Option.toList := by
    refine ⟨_, rfl, ?_⟩
    simp [keys, slots, Json.membersNamed_append, Json.membersNamed_cons,
      Json.membersNamed_optionalMember]
  rw [hjson, ofJson?, mapM_uniqueMember? hmembers, Option.bind_some, ofSlots?_slots]

/-! ## Texts -/

theorem readable_textsJson {depth : Nat} (texts : List String) :
    Readable (depth + 1) (textsJson texts) := by
  refine .array fun v hv => ?_
  obtain ⟨s, -, rfl⟩ := List.mem_map.1 hv
  exact .string s

/-- Nothing of a task is lost in its text if its progress is read back. -/
theorem readable_toJson {depth : Nat} {t : Task} (h : IsReadBack t.percentDone) :
    Readable (depth + 2) t.toJson := by
  have htext (name : String) (value : Option String) :
      Json.AllReadable (depth + 1) (Json.optionalMember name (value.map Json.string)) :=
    Json.allReadable_optionalMember name fun s _ => .string s
  have hpriority : Json.AllReadable (depth + 1)
      (Json.optionalMember "priority" (t.priority.map fun p => .string p.name)) :=
    Json.allReadable_optionalMember "priority" fun p _ => .string p.name
  refine .object ?_
  change Json.AllReadable (depth + 1) _
  simp only [Json.allReadable_append, Json.allReadable_cons, Json.allReadable_nil, and_true,
    htext, hpriority, readable_textsJson, Readable.string, Readable.bool, Readable.number h]

end Task

/-! ## Task files -/

namespace Json

/-- A text is one of a value: the value is read from it, and nothing but blanks follows. -/
def IsTextOf (text : String) (v : Json) : Prop :=
  ∃ blanks, readValue text.toList = .ok (v, blanks) ∧ skipBlanks blanks = []

namespace Readable

variable {v : Json} {blanks : List Char}

/-- A value that is read back has a text in every layout, with blanks at its end. -/
theorem isTextOf_write (h : Readable maxDepth v) (l : Layout) (hblanks : ∀ c ∈ blanks, IsSpace c) :
    IsTextOf (String.ofList (l.write 0 v ++ blanks)) v := by
  have hrest : EndsNumeral blanks := by
    simpa using endsNumeral_append hblanks endsNumeral_nil
  have hskip : skipBlanks blanks = [] := by
    simpa [skipBlanks] using skipBlanks_append hblanks []
  refine ⟨blanks, ?_, hskip⟩
  rw [String.toList_ofList, readValue_write l h hrest]

theorem isTextOf_compact (h : Readable maxDepth v) : IsTextOf v.compact v := by
  have htext := h.isTextOf_write .onOneLine (List.forall_mem_nil _)
  rwa [List.append_nil] at htext

theorem isTextOf_pretty (h : Readable maxDepth v) : IsTextOf v.pretty v := by
  have htext := h.isTextOf_write .indented (List.forall_mem_nil _)
  rwa [List.append_nil] at htext

end Readable

end Json

namespace TaskFile

/-- The tasks of a text are those of its value. -/
theorem decode_of_isTextOf {text : String} {v : Json} (h : Json.IsTextOf text v) :
    decode text = (ofJson? v).elim (.error .wrongShape) .ok := by
  obtain ⟨blanks, hread, hblanks⟩ := h
  rw [decode, hread]
  simp only [hblanks, if_true]
  cases ofJson? v <;> rfl

theorem tasksOf?_toJson (tasks : List Task) :
    tasksOf? (.array (tasks.map Task.toJson)) = some tasks :=
  mapM_map_of_inverse Task.ofJson?_toJson tasks

/-- The tasks under the one key `tasks` of an object are those of a task file. -/
theorem ofJson?_object {members : List (String × Json)} {tasks : List Task}
    (h : Json.membersNamed "tasks" members = [.array (tasks.map Task.toJson)]) :
    ofJson? (.object members) = some tasks := by
  rw [ofJson?, h]
  exact tasksOf?_toJson tasks

theorem readable_tasks {depth : Nat} {tasks : List Task}
    (h : ∀ t ∈ tasks, IsReadBack t.percentDone) :
    Readable (depth + 3) (.array (tasks.map Task.toJson)) := by
  refine .array fun v hv => ?_
  obtain ⟨t, ht, rfl⟩ := List.mem_map.1 hv
  exact Task.readable_toJson (h t ht)

end TaskFile

/-! ## Lists -/

namespace Listing

/-- The numbers of a list are those that a machine word holds. -/
structure InRange (l : Listing) : Prop where
  total_lt : l.total < twoTo 64
  matched_lt : l.matched < twoTo 64
  position_lt : ∀ r ∈ l.rejection, r.position < twoTo 64

theorem membersNamed_toJson (l : Listing) : ∃ members, l.toJson = .object members ∧
    Json.membersNamed "tasks" members = [.array (l.shown.map Task.toJson)] := by
  refine ⟨_, rfl, ?_⟩
  simp [Json.membersNamed_append, Json.membersNamed_cons, Json.membersNamed_optionalMember]

/-- Nothing of a list is lost in its text if its numbers are read back. -/
theorem readable_toJson {depth : Nat} {l : Listing} (hrange : l.InRange)
    (h : ∀ t ∈ l.shown, IsReadBack t.percentDone) : Readable (depth + 4) l.toJson := by
  have hcount {n : Nat} (hn : n < twoTo 64) : Readable (depth + 3) (.integer n) := by
    refine .integer ⟨?_, ?_⟩
    · omega
    · omega
  have hfilter : Readable (depth + 3) ((l.filter.map Json.string).getD .null) := by
    cases l.filter with
    | none => exact .null
    | some query => exact .string query
  have hrejection : Json.AllReadable (depth + 3)
      (Json.optionalMember "filter_error" (l.rejection.map Rejection.toJson)) := by
    refine Json.allReadable_optionalMember "filter_error" fun r hr => .object ?_
    exact Json.allReadable_cons.2 ⟨.string r.message,
      Json.allReadable_cons.2 ⟨.integer ⟨by omega, by have := hrange.position_lt r hr; omega⟩,
        Json.allReadable_nil⟩⟩
  refine .object ?_
  change Json.AllReadable (depth + 3) _
  simp only [Json.allReadable_append, Json.allReadable_cons, Json.allReadable_nil, and_true,
    hfilter, hrejection, hcount hrange.total_lt, hcount hrange.matched_lt,
    TaskFile.readable_tasks h]

end Listing

/-! ## Texts of tasks -/

/-- A task file is decoded from both texts of its value, and from the one that is printed. -/
theorem TaskFile.decode_text {v : Json} {tasks : List Task} (hv : Readable Json.maxDepth v)
    (htasks : TaskFile.ofJson? v = some tasks) :
    TaskFile.decode v.compact = .ok tasks ∧ TaskFile.decode v.pretty = .ok tasks ∧
      TaskFile.decode (Outcome.printJson v).output = .ok tasks := by
  have hdecode {text : String} (h : Json.IsTextOf text v) : TaskFile.decode text = .ok tasks := by
    rw [TaskFile.decode_of_isTextOf h, htasks]
    rfl
  have hline : ∀ c ∈ ['\n'], Json.IsSpace c := List.forall_mem_singleton.2 (by decide)
  have hprinted := hv.isTextOf_write .indented hline
  rw [String.ofList_append] at hprinted
  exact ⟨hdecode hv.isTextOf_compact, hdecode hv.isTextOf_pretty, hdecode hprinted⟩

/-- **Tasks that are written are read back**, whatever their texts: from an array, from an object
    with the array under the key `tasks`, and from any list that is printed, if every progress is
    read back from its own text. -/
theorem written_tasks_decode {tasks : List Task} (h : ∀ t ∈ tasks, IsReadBack t.percentDone) :
    (TaskFile.decode (Json.array (tasks.map Task.toJson)).compact = .ok tasks ∧
      TaskFile.decode (Json.array (tasks.map Task.toJson)).pretty = .ok tasks) ∧
    (TaskFile.decode (Json.object [("tasks", .array (tasks.map Task.toJson))]).compact =
        .ok tasks ∧
      TaskFile.decode (Json.object [("tasks", .array (tasks.map Task.toJson))]).pretty =
        .ok tasks) ∧
    ∀ l : Listing, l.shown = tasks → l.InRange →
      TaskFile.decode l.toJson.pretty = .ok tasks ∧
      TaskFile.decode (Outcome.printJson l.toJson).output = .ok tasks := by
  refine ⟨?_, ?_, ?_⟩
  · have harray : TaskFile.ofJson? (.array (tasks.map Task.toJson)) = some tasks :=
      TaskFile.tasksOf?_toJson tasks
    obtain ⟨hcompact, hpretty, -⟩ := TaskFile.decode_text (TaskFile.readable_tasks h) harray
    exact ⟨hcompact, hpretty⟩
  · have hmember : Json.membersNamed "tasks" [("tasks", .array (tasks.map Task.toJson))] =
        [.array (tasks.map Task.toJson)] := by simp [Json.membersNamed_cons]
    have hreadable : Readable Json.maxDepth (.object [("tasks", .array (tasks.map Task.toJson))]) :=
      .object (List.forall_mem_singleton.2 (TaskFile.readable_tasks h))
    obtain ⟨hcompact, hpretty, -⟩ :=
      TaskFile.decode_text hreadable (TaskFile.ofJson?_object hmember)
    exact ⟨hcompact, hpretty⟩
  · rintro l rfl hrange
    obtain ⟨members, hjson, hmember⟩ := l.membersNamed_toJson
    have htasks : TaskFile.ofJson? l.toJson = some l.shown := by
      rw [hjson]
      exact TaskFile.ofJson?_object hmember
    exact (TaskFile.decode_text (l.readable_toJson hrange h) htasks).2

/-- A task with a quote, a line break and a control character in its texts, shown in a list of a
    query that is rejected. -/
theorem written_tasks_decode_rejected :
    let t : Task :=
      { id := "1", title := "a \"b\"\n\u0001", labels := ["é", ""], project := some "\\",
        percentDone := .finite false ⟨4602678819172646912, by decide⟩ }
    let l : Listing :=
      { filter := some "title = \"", rejection := some ⟨.unexpectedEnd, 0⟩, total := 3, matched := 3,
        shown := [t] }
    TaskFile.decode (Json.array [t.toJson]).compact = .ok [t] ∧
      TaskFile.decode (Outcome.printJson l.toJson).output = .ok [t] := by
  intro t l
  have hprogress : ∀ u ∈ [t], IsReadBack u.percentDone := by decide +kernel
  have hrange : l.InRange := ⟨by decide, by decide, by simp [l, twoTo]⟩
  obtain ⟨⟨hcompact, -⟩, -, hlists⟩ := written_tasks_decode hprogress
  exact ⟨hcompact, (hlists l rfl hrange).2⟩

end TaskQuery
