/-
  TaskQuery — settings that are changed and kept.

  * `Settings.assign_eq_ok_iff`: what an assignment stores, key by key;
  * `Settings.assign_spec`: an assignment changes its own key, to a value in which the other
    settings and the instant have no part;
  * `Settings.save_spec`: settings that are saved are loaded again, and no other file
    changes.
-/
import TaskQuery.Proofs.Files.Growth
import TaskQuery.Proofs.Query.TwoInstants
import TaskQuery.Proofs.Settings.Text
import TaskQuery.Settings.Assignment
import TaskQuery.Settings.Storage

namespace TaskQuery.Settings

variable {s t : Settings} {key other : Key} {value path : String} {now : Instant}
  {files after : Files}

/-! ## Assignments -/

/-- What an assignment stores, and which values are accepted. -/
theorem assign_eq_ok_iff : s.assign key value now = .ok t ↔ match key with
    | .tasksFile => t = { s with tasksFile := some value }
    | .color => ∃ b, boolOfText? value = some b ∧ t = { s with color := some b }
    | .dateFormat => value ∈ dateFormats ∧ t = { s with dateFormat := some value }
    | .limit => ∃ n, Count.ofText? value = some n ∧ t = { s with limit := some n }
    | .defaultFilter =>
      rejection? value now = none ∧ t = { s with defaultFilter := nonBlank? value } := by
  cases key with
  | tasksFile => simp [assign, eq_comm]
  | color => cases hvalue : boolOfText? value <;> simp [assign, hvalue, eq_comm]
  | dateFormat => by_cases hvalue : value ∈ dateFormats <;> simp [assign, hvalue, eq_comm]
  | limit => cases hvalue : Count.ofText? value <;> simp [assign, hvalue, eq_comm]
  | defaultFilter =>
    cases hvalue : parseQuery value now <;> simp [assign, rejection?, hvalue, eq_comm]

/-- What an assignment does that is accepted: any settings get the same value for the key, at
    any instant, and keep their other values. -/
theorem assign_spec (h : s.assign key value now = .ok t) :
    ∃ (update : Settings → Settings) (new : Option Toml), update s = t ∧
      (∀ s' now', assign s' key value now' = .ok (update s')) ∧
      ∀ s' other, (update s').value? other = if other = key then new else s'.value? other := by
  rw [assign_eq_ok_iff] at h
  cases key with
  | tasksFile =>
    refine ⟨fun s => { s with tasksFile := some value }, some (.text value), h.symm,
      fun _ _ => rfl, fun _ other => ?_⟩
    cases other <;> rfl
  | color =>
    obtain ⟨b, hvalue, rfl⟩ := h
    refine ⟨fun s => { s with color := some b }, some (.boolean b), rfl,
      fun _ _ => assign_eq_ok_iff.2 ⟨b, hvalue, rfl⟩, fun _ other => ?_⟩
    cases other <;> rfl
  | dateFormat =>
    obtain ⟨hvalue, rfl⟩ := h
    refine ⟨fun s => { s with dateFormat := some value }, some (.text value), rfl,
      fun _ _ => assign_eq_ok_iff.2 ⟨hvalue, rfl⟩, fun _ other => ?_⟩
    cases other <;> rfl
  | limit =>
    obtain ⟨n, hvalue, rfl⟩ := h
    refine ⟨fun s => { s with limit := some n }, some (.integer n.val), rfl,
      fun _ _ => assign_eq_ok_iff.2 ⟨n, hvalue, rfl⟩, fun _ other => ?_⟩
    cases other <;> rfl
  | defaultFilter =>
    obtain ⟨hvalue, rfl⟩ := h
    -- a query is rejected at all instants alike
    refine ⟨fun s => { s with defaultFilter := nonBlank? value }, (nonBlank? value).map .text, rfl,
      fun _ now' => assign_eq_ok_iff.2 ⟨(rejection?_eq value now' now).trans hvalue, rfl⟩,
      fun _ other => ?_⟩
    cases other <;> rfl

/-- An assignment leaves the other keys alone. -/
theorem assign_other (h : s.assign key value now = .ok t) (hne : other ≠ key) :
    t.value? other = s.value? other := by
  obtain ⟨update, new, rfl, -, hvalue⟩ := assign_spec h
  rw [hvalue, if_neg hne]

/-- What a key is assigned depends on nothing else. -/
theorem assign_self (h : s.assign key value now = .ok t) (s' : Settings) (now' : Instant) :
    ∃ t', s'.assign key value now' = .ok t' ∧ t'.value? key = t.value? key := by
  obtain ⟨update, new, rfl, haccepts, hvalue⟩ := assign_spec h
  exact ⟨update s', haccepts s' now', by rw [hvalue, hvalue, if_pos rfl, if_pos rfl]⟩

/-! ## Files -/

theorem makeRoom_grows (files : Files) (path : String) :
    Files.Grows [] files (makeRoom files path).1 := by
  rw [makeRoom]
  split
  · exact Files.Grows.refl [] files
  · exact files.makeDirectories_grows _

theorem save_eq_ok (h : s.save files path = (after, none)) :
    ∃ middle : Files, Files.Grows [] files middle ∧ middle.writeText path s.toText = .ok after := by
  have hroom := makeRoom_grows files path
  rw [save] at h
  split at h
  · cases h
  · rename_i middle heq
    rw [heq] at hroom
    split at h
    · rename_i written hwritten
      cases h
      exact ⟨middle, hroom, hwritten⟩
    · cases h

/-- **Settings that are saved are loaded again**, from a file with their text at the place to
    which the path leads, and no other file changes. -/
theorem save_spec (h : s.save files path = (after, none)) :
    Files.Grows [files.placeOf path] files after ∧
    after.get? (files.placeOf path) = some (.text s.toText) ∧
    load after path = .ok s := by
  obtain ⟨middle, hroom, hwritten⟩ := save_eq_ok h
  obtain ⟨directory, name, hleads, hplace, rfl⟩ := Files.writeText_eq_ok hwritten
  have hmiddle : files.placeOf path = directory ++ [name] := by
    rw [← hleads.placeOf, Files.placeOf, Files.placeOf, hroom.base]
  have hget := middle.get?_put_self (directory ++ [name]) (.text s.toText)
  obtain ⟨hread, hexists⟩ := (hleads.put hplace).readText hget
  rw [hmiddle]
  refine ⟨?_, hget, ?_⟩
  · exact (hroom.mono (List.nil_subset _)).trans (Files.Grows.put middle _ _)
  · rw [load, if_pos hexists, hread]
    dsimp only
    rw [ofText?_toText]

end TaskQuery.Settings
