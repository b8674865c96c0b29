/-
  TaskQuery — which members of an object tell a task.

  * `Task.Agree a b`: members agree if they are the same but for their order, members that are no
    attributes, and nulls for attributes that may be unset;
  * `uniqueMember?_perm` and `uniqueMember?_insert`: what is found under a key does not depend on
    order and on other members; `ofSlots?_unset`: for an attribute that may be unset, null says
    what nothing says;
  * `Agree.ofJson?_eq`: so members that agree tell the same task, or none;
  * `TaskFile.Agree v w`: task files whose tasks have members that agree; `Agree.decode_eq`: they
    are decoded alike from all their texts;
  * `order_and_other_members_ignored`: both, and that a null can always be left out.
-/
import TaskQuery.Proofs.Task.ReadBack

namespace TaskQuery

open Json (membersNamed)

/-! ## Members that agree -/

namespace Task

/-- The keys of the attributes that may be unset. -/
def optionalKeys : List String :=
  ["priority", "dueDate", "startDate", "endDate", "doneAt", "project", "created", "updated"]

/-- Members agree: they differ in their order, in members that are no attributes, and in nulls
    for attributes that may be unset and are not there otherwise. -/
inductive Agree : List (String × Json) → List (String × Json) → Prop
  /-- The order is another one. -/
  | perm {a b} : a.Perm b → Agree a b
  /-- A member is inserted that is no attribute. -/
  | other {key} (v : Json) (a b) : key ∉ keys → Agree (a ++ b) (a ++ (key, v) :: b)
  /-- A null is inserted for an attribute that may be unset. -/
  | unset {key} (a b) : key ∈ optionalKeys → (∀ m ∈ a ++ b, m.1 ≠ key) →
      Agree (a ++ b) (a ++ (key, .null) :: b)
  | symm {a b} : Agree a b → Agree b a
  | trans {a b c} : Agree a b → Agree b c → Agree a c

/-- Values agree: they are the same, or objects with members that agree. -/
inductive ValueAgree : Json → Json → Prop
  | same (v) : ValueAgree v v
  | object {a b} : Agree a b → ValueAgree (.object a) (.object b)

variable {a b : List (String × Json)} {key name : String} {v : Json}

/-! ## What is found under a key -/

theorem membersNamed_eq_nil_iff : membersNamed key a = [] ↔ ∀ m ∈ a, m.1 ≠ key := by
  simp [membersNamed, List.filterMap_eq_nil_iff]

theorem uniqueMember?_perm (h : a.Perm b) (key : String) :
    uniqueMember? a key = uniqueMember? b key := by
  have hperm : (membersNamed key a).Perm (membersNamed key b) := h.filterMap _
  unfold uniqueMember?
  split
  · rename_i hnone
    rw [hnone] at hperm
    rw [hperm.nil_eq.symm]
  · rename_i value hone
    rw [hone] at hperm
    rw [hperm.symm.eq_singleton]
  · rename_i hnil hone
    split
    · rename_i hnone
      rw [hnone] at hperm
      exact absurd hperm.eq_nil hnil
    · rename_i value hvalue
      rw [hvalue] at hperm
      exact absurd hperm.eq_singleton (hone value)
    · rfl

/-- Members under other keys are not found. -/
theorem uniqueMember?_insert (h : name ≠ key) :
    uniqueMember? (a ++ (name, v) :: b) key = uniqueMember? (a ++ b) key := by
  unfold uniqueMember?
  rw [Json.membersNamed_append, Json.membersNamed_append, Json.membersNamed_cons, if_neg h,
    List.nil_append]

/-- A null is found under the key of an attribute that is not there otherwise. -/
theorem uniqueMember?_unset (h : ∀ m ∈ a ++ b, m.1 ≠ key) :
    uniqueMember? (a ++ b) key = some none ∧
      uniqueMember? (a ++ (key, .null) :: b) key = some (some .null) := by
  have hnone := membersNamed_eq_nil_iff.2 h
  have hsplit := hnone
  rw [Json.membersNamed_append, List.append_eq_nil_iff] at hsplit
  unfold uniqueMember?
  rw [hnone, Json.membersNamed_append, Json.membersNamed_cons, if_pos rfl, hsplit.1, hsplit.2]
  exact ⟨rfl, rfl⟩

/-! ## Attributes that are unset -/

/-- The places of the attributes that may be unset. -/
def optionalIndexes : List Nat :=
  optionalKeys.map keys.idxOf

/-- The value of an attribute does not depend on the others, and null says nothing if the
    attribute may be unset. -/
theorem slot_unset {α : Type} {before after : List (Option Json)} {index : Nat} {default : α}
    {read : Json → Option α} (h : before.length = index → read .null = some default) :
    slot (before ++ none :: after) index default read =
      slot (before ++ some .null :: after) index default read := by
  unfold slot
  rcases Nat.lt_trichotomy index before.length with hlt | heq | hgt
  · rw [List.getElem?_append_left hlt, List.getElem?_append_left hlt]
  · subst heq
    simp [h rfl]
  · obtain ⟨k, hk⟩ := Nat.exists_eq_add_of_lt hgt
    have hindex : index - before.length = k + 1 := by omega
    rw [List.getElem?_append_right (Nat.le_of_lt hgt), List.getElem?_append_right (Nat.le_of_lt hgt),
      hindex, List.getElem?_cons_succ, List.getElem?_cons_succ]

/-- **For an attribute that may be unset, null says what nothing says.** -/
theorem ofSlots?_unset {before after : List (Option Json)}
    (h : before.length ∈ optionalIndexes) :
    ofSlots? (before ++ none :: after) = ofSlots? (before ++ some .null :: after) := by
  have hoptional {α : Type} (index : Nat) (read : Json → Option α) :
      slot (before ++ none :: after) index none (Json.toOptional? read) =
        slot (before ++ some .null :: after) index none (Json.toOptional? read) :=
    slot_unset fun _ => rfl
  have hrequired {α : Type} {index : Nat} (hindex : index ∉ optionalIndexes) (default : α)
      (read : Json → Option α) : slot (before ++ none :: after) index default read =
        slot (before ++ some .null :: after) index default read :=
    slot_unset fun heq => absurd (heq ▸ h) hindex
  have hnot : ∀ index ∈ [0, 1, 2, 4, 9, 10, 12], index ∉ optionalIndexes := by decide
  simp only [List.forall_mem_cons, List.not_mem_nil, false_imp_iff, implies_true, and_true] at hnot
  obtain ⟨hid, htitle, hdone, hpercent, hassignees, hlabels, hreminders⟩ := hnot
  simp only [ofSlots?, hoptional, hrequired hid, hrequired htitle, hrequired hdone,
    hrequired hpercent, hrequired hassignees, hrequired hlabels, hrequired hreminders]

/-- A null for an attribute that may be unset changes nothing. -/
theorem ofJson?_unset (hkey : key ∈ optionalKeys) (h : ∀ m ∈ a ++ b, m.1 ≠ key) :
    ofJson? (.object (a ++ b)) = ofJson? (.object (a ++ (key, .null) :: b)) := by
  have hkeys : ∀ key ∈ optionalKeys, key ∈ keys := by decide
  have hnodup : keys.Nodup := by decide
  obtain ⟨front, back, hsplit, hfront⟩ := List.eq_append_cons_of_mem (hkeys key hkey)
  have hback : key ∉ back := by
    rw [hsplit] at hnodup
    exact (List.nodup_cons.1 (List.nodup_append.1 hnodup).2.1).1
  have hplace : front.length ∈ optionalIndexes := by
    refine List.mem_map.2 ⟨key, hkey, ?_⟩
    rw [hsplit, List.idxOf_append_of_notMem hfront, List.idxOf_cons_self, Nat.add_zero]
  have hothers {l : List String} (hl : key ∉ l) : l.mapM (uniqueMember? (a ++ (key, .null) :: b)) =
      l.mapM (uniqueMember? (a ++ b)) :=
    mapM_congr fun other hother => uniqueMember?_insert fun heq => hl (heq ▸ hother)
  obtain ⟨hnone, hnull⟩ := uniqueMember?_unset h
  -- the values of the attributes differ at the place of the key only
  rw [ofJson?, ofJson?, hsplit, List.mapM_append, List.mapM_append, List.mapM_cons, List.mapM_cons,
    hothers hfront, hothers hback, hnone, hnull]
  cases hbefore : front.mapM (uniqueMember? (a ++ b)) with
  | none => rfl
  | some before =>
    cases hafter : back.mapM (uniqueMember? (a ++ b)) with
    | none => rfl
    | some after =>
      rw [← length_of_mapM hbefore] at hplace
      exact ofSlots?_unset hplace

/-- **Members that agree tell the same task, or none.** -/
theorem Agree.ofJson?_eq (h : Agree a b) : ofJson? (.object a) = ofJson? (.object b) := by
  induction h with
  | perm h => rw [ofJson?, ofJson?, mapM_congr fun key _ => uniqueMember?_perm h key]
  | @other key v a b hkey =>
    have hothers : ∀ name ∈ keys, uniqueMember? (a ++ b) name =
        uniqueMember? (a ++ (key, v) :: b) name := by
      intro name hname
      have hne : key ≠ name := fun heq => hkey (heq ▸ hname)
      exact (uniqueMember?_insert hne).symm
    rw [ofJson?, ofJson?, mapM_congr hothers]
  | unset a b hkey hnone => exact ofJson?_unset hkey hnone
  | symm _ ih => exact ih.symm
  | trans _ _ ih ih' => exact ih.trans ih'

/-- The null of an attribute that may be unset can be left out of a task. -/
theorem agree_of_null (hkey : key ∈ optionalKeys)
    (h : ofJson? (.object (a ++ (key, .null) :: b)) ≠ none) :
    Agree (a ++ b) (a ++ (key, .null) :: b) := by
  have hkeys : ∀ key ∈ optionalKeys, key ∈ keys := by decide
  refine .unset a b hkey (membersNamed_eq_nil_iff.1 ?_)
  -- a second member with the key would have been refused
  have hunique : uniqueMember? (a ++ (key, .null) :: b) key ≠ none := by
    intro hnone
    rw [ofJson?, mapM_eq_none (hkeys key hkey) hnone] at h
    exact h rfl
  unfold uniqueMember? at hunique
  rw [Json.membersNamed_append, Json.membersNamed_cons, if_pos rfl] at hunique
  rw [Json.membersNamed_append]
  cases hfront : membersNamed key a with
  | nil =>
    cases hback : membersNamed key b with
    | nil => rfl
    | cons w values => simp [hfront, hback] at hunique
  | cons w values => cases values <;> simp [hfront] at hunique

theorem ValueAgree.ofJson?_eq {v w : Json} (h : ValueAgree v w) : ofJson? v = ofJson? w := by
  cases h with
  | same => rfl
  | object h => exact h.ofJson?_eq

end Task

/-! ## Task files -/

namespace TaskFile

/-- The values of task files agree: the values of their tasks do. -/
inductive Agree : Json → Json → Prop
  /-- The tasks stand in an array. -/
  | bare {items items'} : List.Forall₂ Task.ValueAgree items items' →
      Agree (.array items) (.array items')
  /-- The array stands in an object. -/
  | wrapped {items items'} (front back) : List.Forall₂ Task.ValueAgree items items' →
      Agree (.object (front ++ ("tasks", .array items) :: back))
        (.object (front ++ ("tasks", .array items') :: back))

variable {items items' : List Json} {v w : Json} {text text' : String}

theorem tasksOf?_eq (h : List.Forall₂ Task.ValueAgree items items') :
    tasksOf? (.array items) = tasksOf? (.array items') := by
  change items.mapM Task.ofJson? = items'.mapM Task.ofJson?
  induction h with
  | nil => rfl
  | cons hvalue _ ih => rw [List.mapM_cons, List.mapM_cons, hvalue.ofJson?_eq, ih]

/-- **Task files that agree have the same tasks**, or none of them is a task file. -/
theorem Agree.ofJson?_eq (h : Agree v w) : ofJson? v = ofJson? w := by
  cases h with
  | bare h => exact tasksOf?_eq h
  | wrapped front back h =>
    rw [ofJson?, ofJson?, Json.membersNamed_append, Json.membersNamed_append,
      Json.membersNamed_cons, Json.membersNamed_cons, if_pos rfl, if_pos rfl]
    cases membersNamed "tasks" front with
    | nil =>
      cases membersNamed "tasks" back with
      | nil => exact tasksOf?_eq h
      | cons => rfl
    | cons value values => cases values <;> rfl

/-- **Task files that agree are decoded alike**, whatever texts of them are given. -/
theorem Agree.decode_eq (h : Agree v w) (htext : Json.IsTextOf text v)
    (htext' : Json.IsTextOf text' w) : decode text = decode text' := by
  rw [decode_of_isTextOf htext, decode_of_isTextOf htext', h.ofJson?_eq]

end TaskFile

/-- **Tasks are decoded whatever the order of their members and whatever other members they have.**
    Objects whose members agree are the same task, or both are none; in an object that is a task
    every null for an attribute that may be unset can be left out; and task files whose tasks have
    members that agree are decoded alike from all their texts, such as the compact and the indented
    ones. -/
theorem order_and_other_members_ignored :
    (∀ a b, Task.Agree a b → Task.ofJson? (.object a) = Task.ofJson? (.object b)) ∧
    (∀ a b, ∀ key ∈ Task.optionalKeys, Task.ofJson? (.object (a ++ (key, .null) :: b)) ≠ none →
      Task.Agree (a ++ b) (a ++ (key, .null) :: b)) ∧
    (∀ v w, TaskFile.Agree v w → ∀ text text', Json.IsTextOf text v → Json.IsTextOf text' w →
      TaskFile.decode text = TaskFile.decode text') ∧
    (∀ v w, TaskFile.Agree v w → Json.Readable Json.maxDepth v → Json.Readable Json.maxDepth w →
      TaskFile.decode v.compact = TaskFile.decode w.compact ∧
      TaskFile.decode v.pretty = TaskFile.decode w.pretty) := by
  refine ⟨fun a b => Task.Agree.ofJson?_eq, fun a b key => Task.agree_of_null,
    fun v w h text text' => h.decode_eq, fun v w h hv hw => ⟨?_, ?_⟩⟩
  · exact h.decode_eq hv.isTextOf_compact hw.isTextOf_compact
  · exact h.decode_eq hv.isTextOf_pretty hw.isTextOf_pretty

/-- A task in an object, with its members turned around, an unknown one with values nested in it
    and a null for the date that is not set. -/
theorem order_and_other_members_ignored_wrapped :
    let members : List (String × Json) := [("id", .string "1"), ("done", .bool true)]
    let shuffled : List (String × Json) :=
      [("done", .bool true), ("color", .object [("id", .array [.integer 2, .null])]),
        ("dueDate", .null), ("id", .string "1")]
    TaskFile.decode (Json.object [("tasks", .array [.object members])]).pretty =
        .ok [{ id := "1", done := true }] ∧
      TaskFile.decode (Json.object [("tasks", .array [.object members])]).pretty =
        TaskFile.decode (Json.object [("tasks", .array [.object shuffled])]).pretty := by
  intro members shuffled
  have hagree : Task.Agree members shuffled := by
    refine .trans (.perm (List.Perm.swap _ _ [])) (.trans (.unset [("done", .bool true)] _ ?_ ?_)
      (.other _ [("done", .bool true)] _ ?_))
    · decide
    · decide
    · decide
  have hreadable {members : List (String × Json)} (h : Json.AllReadable 124 members) :
      Json.Readable Json.maxDepth (.object [("tasks", .array [.object members])]) :=
    .object (List.forall_mem_singleton.2 (.array (List.forall_mem_singleton.2 (.object h))))
  have hmembers : Json.AllReadable 124 members := by
    simp [members, Json.AllReadable, Json.Readable.string, Json.Readable.bool]
  have hshuffled : Json.AllReadable 124 shuffled := by
    simp only [shuffled, Json.allReadable_cons, Json.allReadable_nil, and_true,
      Json.Readable.string, Json.Readable.bool, Json.Readable.null, true_and]
    refine .object (List.forall_mem_singleton.2 (.array (List.forall_mem_cons.2 ⟨.integer ?_,
      List.forall_mem_singleton.2 .null⟩)))
    decide
  refine ⟨by decide +kernel, ?_⟩
  exact (order_and_other_members_ignored.2.2.2 _ _ (.wrapped [] [] (.cons (.object hagree) .nil))
    (hreadable hmembers) (hreadable hshuffled)).2

end TaskQuery
