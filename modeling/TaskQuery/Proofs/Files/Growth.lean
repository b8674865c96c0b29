/-
  TaskQuery — what operations on files leave alone.

  * `Files.placeOf files path`: the place that a path leads to, whatever is there;
  * `Files.Leads path directory name`: a path leads to a name in a directory;
    `Files.writeText_eq_ok` and `Leads.readText`: a file is written there, and read back;
  * `Files.Grows changed before after`: files may differ at some places, and elsewhere only in
    directories that were made; `Files.grows_makeDirectories` and `Files.grows_writeText`: so
    they do after directories are made, and after a file is written.
-/
import Mathlib.Tactic.SplitIfs
import TaskQuery.Files.Basic

namespace TaskQuery.Files

variable {files before middle after : Files} {changed changed' : List Place}
  {place start directory : Place} {path content name : String} {names : List String}
  {entry : Entry} {fault : FileFault}

/-! ## Places -/

/-- The place that a path leads to, whatever is there. -/
def placeOf (files : Files) (path : String) : Place :=
  match Path.ofText path with
  | .ok p => p.names.foldl Place.after (if p.fromRoot then [] else files.base)
  | .error _ => []

theorem entryIn_eq_ok_iff {found : Option Entry} :
    files.entryIn directory name = .ok found ↔
      name.utf8ByteSize ≤ Path.maxNameBytes ∧ files.get? (directory ++ [name]) = found := by
  rw [entryIn]
  split
  next hlong => simp [Nat.not_le.2 hlong]
  next hshort => simp [Nat.le_of_not_lt hshort]

/-- One step along a path goes up, or to a directory. -/
theorem enter_cons_eq_ok_iff : files.enter start (name :: names) = .ok place ↔
    (name = "." ∨ name = ".." ∨ files.entryIn start name = .ok (some .directory)) ∧
      files.enter (start.after name) names = .ok place := by
  rw [enter, Place.after]
  split_ifs with hpoint hpoints
  · simp [hpoint]
  · simp [hpoints]
  · split <;> simp_all

theorem enter_eq (h : files.enter start names = .ok place) :
    place = names.foldl Place.after start := by
  induction names generalizing start with
  | nil => exact (Except.ok.inj h).symm
  | cons name names ih => exact ih (enter_cons_eq_ok_iff.1 h).2

/-- What is put where no directory is stands in no way. -/
theorem enter_put (hplace : files.get? place ≠ some .directory)
    (h : files.enter start names = .ok directory) :
    (files.put place entry).enter start names = .ok directory := by
  induction names generalizing start with
  | nil => exact h
  | cons name names ih =>
    rw [enter_cons_eq_ok_iff] at h ⊢
    refine ⟨h.1.imp_right (Or.imp_right fun hentry => ?_), ih h.2⟩
    rw [entryIn_eq_ok_iff] at hentry ⊢
    refine ⟨hentry.1, ?_⟩
    have hne : start ++ [name] ≠ place := by
      rintro rfl
      exact hplace hentry.2
    rcases files.get?_put entry hne with hget | ⟨hnone, -⟩
    · rw [hget, hentry.2]
    · rw [hentry.2] at hnone
      cases hnone

/-! ## Paths to files -/

/-- A path leads to a name in a directory, where a file can be. -/
structure Leads (files : Files) (path : String) (directory : Place) (name : String) : Prop where
  parsed : ∃ p, Path.ofText path = .ok p ∧ files.directoryOf p = .ok directory ∧
    p.entryName? = some name ∧ p.endsInSlash = false
  short : name.utf8ByteSize ≤ Path.maxNameBytes

theorem writeText_eq_ok (h : files.writeText path content = .ok after) :
    ∃ directory name, files.Leads path directory name ∧
      files.get? (directory ++ [name]) ≠ some .directory ∧
      after = files.put (directory ++ [name]) (.text content) := by
  simp only [writeText, bind, Except.bind] at h
  split at h
  · cases h
  rename_i p hp
  split at h
  · cases h
  rename_i directory hdirectory
  split at h
  · cases h
  rename_i name hname
  split_ifs at h with hslash
  split at h
  · cases h
  rename_i found hfound
  rw [entryIn_eq_ok_iff] at hfound
  split at h
  · cases h
  rename_i hfile
  refine ⟨directory, name, ⟨⟨p, hp, hdirectory, hname, by simpa using hslash⟩, hfound.1⟩, ?_,
    (Except.ok.inj h).symm⟩
  rw [hfound.2]
  exact hfile

namespace Leads

theorem placeOf (h : files.Leads path directory name) :
    files.placeOf path = directory ++ [name] := by
  obtain ⟨p, hp, hdirectory, hname, -⟩ := h.parsed
  obtain ⟨hlast, hpoints⟩ := Option.filter_eq_some_iff.1 hname
  obtain ⟨hpoint, hpoints⟩ : name ≠ "." ∧ name ≠ ".." := by simpa using hpoints
  obtain ⟨way, hway⟩ := List.getLast?_eq_some_iff.1 hlast
  have hnames : p.names = p.way ++ [name] := by rw [Path.way, hway, List.dropLast_concat]
  rw [Files.placeOf, hp]
  dsimp only
  rw [hnames, List.foldl_append, ← enter_eq hdirectory, List.foldl_cons, List.foldl_nil,
    Place.after, if_neg hpoint, if_neg hpoints]

theorem put (h : files.Leads path directory name) (hplace : files.get? place ≠ some .directory) :
    (files.put place entry).Leads path directory name := by
  obtain ⟨⟨p, hp, hdirectory, hname, hslash⟩, hshort⟩ := h
  exact ⟨⟨p, hp, enter_put hplace hdirectory, hname, hslash⟩, hshort⟩

/-- The file to which a path leads is found and read. -/
theorem readText (h : files.Leads path directory name)
    (hget : files.get? (directory ++ [name]) = some (.text content)) :
    files.readText path = .ok content ∧ files.pathExists path = true := by
  obtain ⟨⟨p, hp, hdirectory, hname, hslash⟩, hshort⟩ := h
  have hfound := entryIn_eq_ok_iff.2 ⟨hshort, hget⟩
  have hentry : files.entryAt path = .ok (.text content) := by
    simp [entryAt, bind, Except.bind, hp, hdirectory, hname, hfound, hslash]
  exact ⟨by simp [Files.readText, bind, Except.bind, hentry], by rw [pathExists, hentry]; rfl⟩

end Leads

/-! ## Growth -/

/-- Files differ at most at some places, and elsewhere in directories that were made. -/
structure Grows (changed : List Place) (before after : Files) : Prop where
  base : after.base = before.base
  get? : ∀ place ∉ changed, after.get? place = before.get? place ∨
    (before.get? place = none ∧ after.get? place = some .directory)

namespace Grows

theorem refl (changed : List Place) (files : Files) : Grows changed files files :=
  ⟨rfl, fun _ _ => Or.inl rfl⟩

theorem trans (h : Grows changed before middle) (h' : Grows changed middle after) :
    Grows changed before after := by
  refine ⟨h'.base.trans h.base, fun place hplace => ?_⟩
  rcases h.get? place hplace with hsame | ⟨hnone, hmade⟩
  · rw [← hsame]
    exact h'.get? place hplace
  · refine Or.inr ⟨hnone, ?_⟩
    rcases h'.get? place hplace with hsame | ⟨hnone, -⟩
    · rw [hsame, hmade]
    · rw [hmade] at hnone
      cases hnone

theorem mono (h : Grows changed before after) (hsub : changed ⊆ changed') :
    Grows changed' before after :=
  ⟨h.base, fun place hplace => h.get? place fun hmem => hplace (hsub hmem)⟩

theorem put (files : Files) (place : Place) (entry : Entry) :
    Grows [place] files (files.put place entry) :=
  ⟨rfl, fun _ hother => files.get?_put entry (by simpa using hother)⟩

/-- Files elsewhere are the same, and none is new. -/
theorem get?_eq_some_iff (h : Grows changed before after) (hplace : place ∉ changed)
    (hentry : entry ≠ .directory) : after.get? place = some entry ↔ before.get? place = some entry := by
  rcases h.get? place hplace with hsame | ⟨hnone, hmade⟩
  · rw [hsame]
  · simp [hnone, hmade, hentry.symm]

end Grows

/-! ## Directories -/

theorem makeDirectory_grows (h : files.makeDirectory path = .ok after) : Grows [] files after := by
  simp only [makeDirectory, bind, Except.bind] at h
  split at h
  · cases h
  split at h
  · cases h
  rename_i directory _
  split at h
  · cases h
  rename_i name _
  split at h
  · cases h
  rename_i found hfound
  rw [entryIn_eq_ok_iff] at hfound
  split at h
  · cases h
  obtain rfl := Except.ok.inj h
  have hput := Grows.put files (directory ++ [name]) .directory
  refine ⟨hput.base, fun place _ => ?_⟩
  by_cases hplace : place = directory ++ [name]
  · subst hplace
    exact Or.inr ⟨hfound.2, get?_put_self ..⟩
  · exact hput.get? place (by simpa using hplace)

theorem ensureDirectory_grows (files : Files) (path : String) :
    Grows [] files (files.ensureDirectory path).1 := by
  rw [ensureDirectory]
  split
  next made h => exact makeDirectory_grows h
  next => exact Grows.refl [] files

theorem makeDirectoriesUpTo_grows (files : Files) (bound : Nat) (path : String) :
    Grows [] files (files.makeDirectoriesUpTo bound path).1 := by
  induction bound generalizing path with
  | zero => exact Grows.refl [] files
  | succ bound ih =>
    have hway := ih ((parentPath path).getD "")
    have hensure := files.ensureDirectory_grows path
    rw [makeDirectoriesUpTo]
    split_ifs with hempty
    · exact Grows.refl [] files
    · split
      · split
        next made hmade =>
          rw [hmade] at hway
          exact hway.trans (made.ensureDirectory_grows path)
        next => exact hway
      · exact hensure

/-- Directories are made where nothing was, and nothing else happens. -/
theorem makeDirectories_grows (files : Files) (path : String) :
    Grows [] files (files.makeDirectories path).1 :=
  files.makeDirectoriesUpTo_grows path.length path

end TaskQuery.Files
