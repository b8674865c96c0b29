/-
  TaskQuery — settings files that are written are read back.

  * `Settings.value? s key`: the value of a key in a settings file; `Settings.value?_eq_iff`: it
    tells the setting;
  * `Settings.member?` and `Settings.members`: the lines of settings files;
    `Settings.toText_eq`: a settings file is a document of them;
  * `Settings.ofText?_toText`: what is written is read back.
-/
import TaskQuery.Proofs.Toml.Documents
import TaskQuery.Settings.Reading

namespace TaskQuery

open Toml (Member Section IsBare)

variable {s t : Settings} {key : Settings.Key} {keys : List Settings.Key} {m : Member}

theorem Settings.Key.isBare_member (key : Key) : IsBare key.member := by
  cases key <;> decide

theorem Settings.Key.member_injective {key key' : Key} (h : key.member = key'.member) :
    key = key' := by
  revert h
  cases key <;> cases key' <;> decide

namespace Settings

/-! ## Values -/

/-- The value of a key in a settings file, if it is set. -/
def value? (s : Settings) : Key → Option Toml
  | .tasksFile => s.tasksFile.map .text
  | .color => s.color.map .boolean
  | .dateFormat => s.dateFormat.map .text
  | .limit => s.limit.map fun n => .integer n.val
  | .defaultFilter => s.defaultFilter.map .text

/-- What is in the file tells the value of a setting. -/
theorem value?_eq_iff : s.value? key = t.value? key ↔ match key with
    | .tasksFile => s.tasksFile = t.tasksFile
    | .color => s.color = t.color
    | .dateFormat => s.dateFormat = t.dateFormat
    | .limit => s.limit = t.limit
    | .defaultFilter => s.defaultFilter = t.defaultFilter := by
  cases key with
  | tasksFile | dateFormat | defaultFilter =>
    exact (Option.map_injective fun _ _ => Toml.text.inj).eq_iff
  | color => exact (Option.map_injective fun _ _ => Toml.boolean.inj).eq_iff
  | limit =>
    exact (Option.map_injective fun _ _ h => Fin.ext (Int.ofNat.inj (Toml.integer.inj h))).eq_iff

theorem optional?_value? (s : Settings) :
    optional? Toml.toText? (s.value? .tasksFile) = some s.tasksFile ∧
    optional? Toml.toBool? (s.value? .color) = some s.color ∧
    optional? Toml.toText? (s.value? .dateFormat) = some s.dateFormat ∧
    optional? Toml.toCount? (s.value? .limit) = some s.limit ∧
    optional? Toml.toText? (s.value? .defaultFilter) = some s.defaultFilter := by
  obtain ⟨tasksFile, color, dateFormat, limit, defaultFilter⟩ := s
  have hlimit : optional? Toml.toCount? (limit.map fun n => .integer n.val) = some limit := by
    cases limit with
    | none => rfl
    | some n => simp [optional?, Toml.toCount?, Count.ofNat?]
  refine ⟨?_, ?_, ?_, hlimit, ?_⟩
  · cases tasksFile <;> rfl
  · cases color <;> rfl
  · cases dateFormat <;> rfl
  · cases defaultFilter <;> rfl

/-! ## Lines -/

/-- The line of a key with a string. -/
def textMember (key : Key) (value : String) : Member :=
  ⟨key.member, Toml.quote value, .text value, key.isBare_member, Toml.written_quote value⟩

/-- The line of a key with a truth value. -/
def boolMember (key : Key) (value : Bool) : Member where
  key := key.member
  written := boolText value
  value := .boolean value
  bare := key.isBare_member
  reads := by
    cases value
    · exact Toml.written_false
    · exact Toml.written_true

/-- The line of a key with a number. -/
def countMember (key : Key) (value : Count) : Member where
  key := key.member
  written := toString value.val
  value := .integer value.val
  bare := key.isBare_member
  reads := Toml.written_toString (Nat.lt_trans value.isLt (by decide))

/-- The line of a key, if it is set. -/
def member? (s : Settings) : Key → Option Member
  | .tasksFile => s.tasksFile.map (textMember .tasksFile)
  | .color => s.color.map (boolMember .color)
  | .dateFormat => s.dateFormat.map (textMember .dateFormat)
  | .limit => s.limit.map (countMember .limit)
  | .defaultFilter => s.defaultFilter.map (textMember .defaultFilter)

theorem key_of_member? (h : s.member? key = some m) : m.key = key.member := by
  cases key <;> obtain ⟨_, -, rfl⟩ := Option.map_eq_some_iff.1 h <;> rfl

theorem map_value_member? (s : Settings) (key : Key) :
    (s.member? key).map Member.value = s.value? key := by
  cases key <;> exact Option.map_map ..

/-- The lines of some keys. -/
def members (s : Settings) (keys : List Key) : List Member :=
  keys.filterMap s.member?

theorem sublist_members (s : Settings) (keys : List Key) :
    ((s.members keys).map Member.key).Sublist (keys.map Key.member) := by
  induction keys with
  | nil => exact List.Sublist.slnil
  | cons key keys ih =>
    rw [members, List.filterMap_cons]
    cases hm : s.member? key with
    | none => exact ih.cons _
    | some m =>
      rw [List.map_cons, List.map_cons, key_of_member? hm]
      exact ih.cons_cons _

theorem lookup_members (s : Settings) (key : Key) (keys : List Key) :
    ((s.members keys).map Member.pair).lookup key.member =
      if key ∈ keys then s.value? key else none := by
  induction keys with
  | nil => rfl
  | cons key' keys ih =>
    rw [members, List.filterMap_cons]
    have hvalue := s.map_value_member? key'
    cases hm : s.member? key' with
    | none =>
      rw [hm, Option.map_none] at hvalue
      refine ih.trans ?_
      by_cases hkey : key = key'
      · simp [hkey, ← hvalue]
      · simp [hkey]
    | some m =>
      rw [hm, Option.map_some] at hvalue
      rw [List.map_cons, Member.pair, key_of_member? hm, List.lookup_cons]
      by_cases hkey : key = key'
      · simp [hkey, hvalue]
      · have hne : (key.member == key'.member) = false := by
          simpa using mt Key.member_injective hkey
        rw [hne]
        refine ih.trans ?_
        simp [hkey]

/-- The version of a settings file. -/
def versionMember : Member where
  key := "version"
  written := toString version
  value := .integer version
  bare := by decide
  reads := Toml.written_toString (by decide)

/-- A table of settings. -/
def part (s : Settings) (name : String) (keys : List Key) (bare : IsBare name)
    (nodup : (keys.map Key.member).Nodup) : Section where
  name := name
  members := s.members keys
  bare := bare
  nodup := nodup.sublist (s.sublist_members keys)

/-- The tables of a settings file. -/
def parts (s : Settings) : List Section :=
  [s.part "output" [.color, .dateFormat] (by decide) (by decide),
    s.part "list" [.limit] (by decide) (by decide),
    s.part "filter" [.defaultFilter] (by decide) (by decide)]

/-! ## Settings files -/

theorem line_eq (s : Settings) (key : Key) :
    line key ((s.member? key).map Member.written) = String.join ((s.members [key]).map Member.text) := by
  rw [members, List.filterMap_cons]
  cases hm : s.member? key with
  | none => rfl
  | some m => simp [line, Member.text, key_of_member? hm]

theorem map_written (s : Settings) :
    s.tasksFile.map Toml.quote = (s.member? .tasksFile).map Member.written ∧
    s.color.map boolText = (s.member? .color).map Member.written ∧
    s.dateFormat.map Toml.quote = (s.member? .dateFormat).map Member.written ∧
    (s.limit.map fun n => toString n.val) = (s.member? .limit).map Member.written ∧
    s.defaultFilter.map Toml.quote = (s.member? .defaultFilter).map Member.written := by
  simp only [member?, Option.map_map]
  exact ⟨rfl, rfl, rfl, rfl, rfl⟩

/-- A settings file is a document. -/
theorem toText_eq (s : Settings) :
    s.toText = Toml.documentText (versionMember :: s.members [.tasksFile]) s.parts := by
  obtain ⟨htasks, hcolor, hdate, hlimit, hdefault⟩ := s.map_written
  have houtput : s.members [.color, .dateFormat] = s.members [.color] ++ s.members [.dateFormat] :=
    List.filterMap_append (l := [_])
  rw [toText, htasks, hcolor, hdate, hlimit, hdefault]
  simp only [line_eq]
  simp [Toml.documentText, parts, part, Section.text, houtput, versionMember, Member.text,
    String.append_assoc]

/-- The table that a settings file describes. -/
def table (s : Settings) : Toml :=
  .table .header ((versionMember :: s.members [.tasksFile]).map Member.pair ++
    s.parts.map Section.pair)

theorem toml_toText (s : Settings) : Toml.ofText? s.toText = some s.table := by
  have hkeys : ((versionMember :: s.members [.tasksFile]).map Member.key ++
      s.parts.map Section.name).Sublist ["version", "tasks_file", "output", "list", "filter"] :=
    ((s.sublist_members [.tasksFile]).cons_cons "version").append (List.Sublist.refl _)
  rw [toText_eq]
  exact Toml.ofText?_documentText (List.Nodup.sublist hkeys (by decide))

theorem member?_table (s : Settings) :
    s.table.member? "version" = some (.integer version) ∧
    s.table.member? Key.tasksFile.member = s.value? .tasksFile ∧
    s.table.member? "output" =
      some (.table .header ((s.members [.color, .dateFormat]).map Member.pair)) ∧
    s.table.member? "list" = some (.table .header ((s.members [.limit]).map Member.pair)) ∧
    s.table.member? "filter" = some (.table .header ((s.members [.defaultFilter]).map Member.pair)) := by
  rw [table, members.eq_def s [.tasksFile], List.filterMap_cons, List.filterMap_nil, member?, value?]
  cases s.tasksFile <;> exact ⟨rfl, rfl, rfl, rfl, rfl⟩

theorem fields?_members (s : Settings) (keys : List Key) :
    fields? keys (some (.table .header ((s.members keys).map Member.pair))) =
      some (keys.map s.value?) := by
  rw [fields?]
  refine congrArg some (List.map_congr_left fun key hkey => ?_)
  rw [lookup_members, if_pos hkey]

theorem ofToml?_table (s : Settings) : ofToml? s.table = some s := by
  obtain ⟨hversion, htasks, houtput, hlist, hfilter⟩ := s.member?_table
  obtain ⟨h₁, h₂, h₃, h₄, h₅⟩ := s.optional?_value?
  rw [ofToml?, hversion, htasks, houtput, hlist, hfilter, fields?_members, fields?_members,
    fields?_members, h₁]
  simp only [Option.bind_eq_bind, Option.bind_some, List.map_cons, List.map_nil,
    List.getElem?_cons_zero, List.getElem?_cons_succ, Option.join_some, h₂, h₃, h₄, h₅]
  rfl

/-- **Settings that are written are read back**, with the current version. -/
theorem ofText?_toText (s : Settings) : ofText? s.toText = some s := by
  rw [ofText?, toml_toText, Option.bind_some, ofToml?_table]

end Settings

end TaskQuery
