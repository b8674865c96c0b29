/-
  TaskQuery — the directory of a file that is there.

  * `Path.namesOf` are the names in a text; `Path.namesOf_append`: a slash parts them;
    `Path.namesOf_withoutEnd`: only single points are lost at the end of a path;
    `Path.parentPath_spec`: so a path without its last name has the other names of the path;
  * `Files.entryAt_eq_directory`: a path leads to a directory if all its names can be entered;
  * `Files.leads_of_entryAt`: a path to a file leads to its name in a directory;
    `Files.Leads.entryAt_parentPath`: so the path without that name leads to the directory;
  * `Files.Leads.writeText`: the file can be written over;
    `Files.makeDirectories_of_entryAt`: no directory is made before that.
-/
import Mathlib.Data.List.TakeWhile
import TaskQuery.Proofs.Files.Growth

namespace TaskQuery

/-! ## Names -/

namespace Path

variable {front back name text : List Char} {path : String} {p : Path}

theorem pieces_ne_nil (text : List Char) : pieces text ≠ [] := by
  cases text with
  | nil => simp [pieces]
  | cons c rest =>
    rw [pieces]
    split
    · split_ifs <;> simp
    · simp

/-- A slash parts a text. -/
theorem pieces_append (front back : List Char) :
    pieces (front ++ '/' :: back) = pieces front ++ pieces back := by
  induction front with
  | nil =>
    obtain ⟨piece, others, hback⟩ := List.exists_cons_of_ne_nil (pieces_ne_nil back)
    simp [pieces, hback]
  | cons c front ih =>
    obtain ⟨piece, others, hfront⟩ := List.exists_cons_of_ne_nil (pieces_ne_nil front)
    rw [List.cons_append, pieces, pieces, ih, hfront]
    split_ifs <;> rfl

theorem pieces_of_notMem (h : '/' ∉ text) : pieces text = [text] := by
  induction text with
  | nil => rfl
  | cons c text ih =>
    rw [List.mem_cons, not_or] at h
    simp [pieces, ih h.2, Ne.symm h.1]

/-- The names in a text. -/
def namesOf (text : List Char) : List String :=
  ((pieces text).filter (· ≠ [])).map String.ofList

/-- A slash parts the names in a text. -/
theorem namesOf_append (front back : List Char) :
    namesOf (front ++ '/' :: back) = namesOf front ++ namesOf back := by
  rw [namesOf, pieces_append, List.filter_append, List.map_append]
  rfl

theorem namesOf_of_notMem (h : '/' ∉ name) (hname : name ≠ []) :
    namesOf name = [String.ofList name] := by
  simp [namesOf, pieces_of_notMem h, hname]

theorem ofText_eq_ok_iff : ofText path = .ok p ↔ '\x00' ∉ path.toList ∧ path ≠ "" ∧
    path.utf8ByteSize ≤ maxBytes ∧
    p = ⟨path.toList.head? = some '/', namesOf path.toList, path.toList.getLast? = some '/'⟩ := by
  rw [ofText]
  split_ifs with hnul hempty hlong
  · simp [hnul]
  · simp [hempty]
  · simp [Nat.not_le.2 hlong]
  · simp [hnul, hempty, Nat.le_of_not_lt hlong, namesOf, eq_comm]

end Path

/-! ## Ends of paths -/

variable {reversed : List Char}

theorem withoutEnd_suffix (reversed : List Char) : withoutEnd reversed <:+ reversed := by
  fun_induction withoutEnd reversed with
  | case1 => exact List.suffix_rfl
  | case2 rest _ ih => exact ih.trans (List.suffix_cons ..)
  | case3 => exact List.suffix_cons ..
  | case4 rest _ ih => exact (ih.trans (List.suffix_cons ..)).trans (List.suffix_cons ..)
  | case5 => exact List.suffix_rfl

/-- Only single points are lost at the end of a path. -/
theorem Path.namesOf_withoutEnd (reversed : List Char) : ∃ points, (∀ name ∈ points, name = ".") ∧
    namesOf reversed.reverse = namesOf (withoutEnd reversed).reverse ++ points := by
  fun_induction withoutEnd reversed with
  | case1 => exact ⟨[], by simp, by simp⟩
  | case2 rest _ ih =>
    obtain ⟨points, hpoints, hnames⟩ := ih
    refine ⟨points, hpoints, ?_⟩
    rw [List.reverse_cons, namesOf_append, hnames]
    exact List.append_nil _
  | case3 => exact ⟨["."], by simp, by decide⟩
  | case4 rest _ ih =>
    obtain ⟨points, hpoints, hnames⟩ := ih
    refine ⟨points ++ ["."], ?_, ?_⟩
    · rw [List.forall_mem_append]
      exact ⟨hpoints, by simp⟩
    · rw [List.reverse_cons, List.reverse_cons, List.append_assoc, List.singleton_append,
        namesOf_append, hnames, List.append_assoc]
      rfl
  | case5 => exact ⟨[], by simp, by simp⟩

theorem withoutEnd_eq_self (hslash : reversed.head? ≠ some '/')
    (hpoint : ¬ ['.', '/'] <+: reversed) : withoutEnd reversed = reversed := by
  fun_cases withoutEnd reversed with
  | case1 => rfl
  | case2 => simp at hslash
  | case3 => simp at hpoint
  | case4 => simp at hpoint
  | case5 => rfl

namespace Path

variable {text : List Char} {path above name : String} {p : Path}

/-- A text at the start of a path is a path with the names in it. -/
theorem ofText_of_prefix (hp : ofText path = .ok p) (hstart : above.toList <+: path.toList)
    (hempty : above ≠ "") :
    ∃ q, ofText above = .ok q ∧ q.fromRoot = p.fromRoot ∧ q.names = namesOf above.toList := by
  obtain ⟨hnul, -, hbytes, rfl⟩ := ofText_eq_ok_iff.1 hp
  obtain ⟨rest, hrest⟩ := hstart
  have hhead : path.toList.head? = above.toList.head? := by
    rw [← hrest, List.head?_append]
    cases habove : above.toList with
    | nil => exact absurd (String.toList_eq_nil_iff.1 habove) hempty
    | cons => rfl
  have hsize : above.utf8ByteSize ≤ path.utf8ByteSize := by
    have hpath : path = above ++ String.ofList rest := by
      rw [← String.ofList_toList (s := path), ← hrest, String.ofList_append, String.ofList_toList]
    rw [hpath, String.utf8ByteSize_append]
    exact Nat.le_add_right ..
  refine ⟨_, ofText_eq_ok_iff.2 ⟨?_, hempty, Nat.le_trans hsize hbytes, rfl⟩, ?_, rfl⟩
  · intro hmem
    rw [← hrest] at hnul
    exact hnul (List.mem_append_left _ hmem)
  · rw [hhead]

/-- What stands behind the last slash is the last name. -/
theorem exists_namesOf_eq (hempty : text ≠ []) (hslash : text.getLast? ≠ some '/') :
    ∃ last, namesOf text = namesOf (text.reverse.dropWhile (· ≠ '/')).reverse ++ [last] := by
  obtain ⟨last, before, hlast, hbefore⟩ : ∃ last before,
      last = text.reverse.takeWhile (· ≠ '/') ∧ before = text.reverse.dropWhile (· ≠ '/') :=
    ⟨_, _, rfl, rfl⟩
  have htext : text = before.reverse ++ last.reverse := by
    rw [← List.reverse_append, hlast, hbefore, List.takeWhile_append_dropWhile,
      List.reverse_reverse]
  have hnot : '/' ∉ last.reverse := by
    rw [List.mem_reverse, hlast]
    intro hmem
    simpa using List.mem_takeWhile_imp hmem
  rw [← hbefore]
  cases hhead : before with
  | nil =>
    rw [hhead] at htext
    rw [List.reverse_nil, List.nil_append] at htext
    rw [← htext] at hnot
    exact ⟨_, namesOf_of_notMem hnot hempty⟩
  | cons c front =>
    have hc : c = '/' := by
      have hstop := List.head?_dropWhile_not (· ≠ '/') text.reverse
      rw [← hbefore, hhead] at hstop
      simpa using hstop
    subst hc
    rw [hhead, List.reverse_cons, List.append_assoc, List.singleton_append] at htext
    have hname : last.reverse ≠ [] := by
      rintro hnil
      simp [htext, hnil] at hslash
    refine ⟨String.ofList last.reverse, ?_⟩
    rw [htext, namesOf_append, namesOf_of_notMem hnot hname, List.reverse_cons, namesOf_append]
    exact congrArg (· ++ _) (List.append_nil _).symm

theorem withoutEnd_reverse (hp : ofText path = .ok p) (hname : p.entryName? = some name)
    (hslash : p.endsInSlash = false) : withoutEnd path.toList.reverse = path.toList.reverse := by
  obtain ⟨-, -, -, rfl⟩ := ofText_eq_ok_iff.1 hp
  refine withoutEnd_eq_self ?_ ?_
  · rw [List.head?_reverse]
    simpa using hslash
  · rintro ⟨rest, hrest⟩
    have htext : path.toList = rest.reverse ++ '/' :: ['.'] := by
      rw [← List.reverse_reverse path.toList, ← hrest]
      simp
    -- a single point is no name of a file
    have hpoint : namesOf path.toList = namesOf rest.reverse ++ ["."] := by
      rw [htext, namesOf_append]
      rfl
    simp only [entryName?, hpoint, List.getLast?_concat] at hname
    cases hname

/-- A path without the name at its end has the names before it, but for single points. -/
theorem parentPath_spec (hp : ofText path = .ok p) (hname : p.entryName? = some name)
    (hslash : p.endsInSlash = false) : ∃ above, parentPath path = some above ∧
      (above = "" ∨ ∃ q points, ofText above = .ok q ∧ q.fromRoot = p.fromRoot ∧
        (∀ name ∈ points, name = ".") ∧ p.way = q.names ++ points) := by
  have hreversed := withoutEnd_reverse hp hname hslash
  obtain ⟨-, hempty, -, hparts⟩ := ofText_eq_ok_iff.1 hp
  have hnil : path.toList ≠ [] := by simpa using hempty
  have hlast : path.toList.getLast? ≠ some '/' := by simpa [hparts] using hslash
  have hroot : path.toList.reverse ≠ ['/'] := by
    intro heq
    rw [← List.head?_reverse, heq] at hlast
    exact hlast rfl
  obtain ⟨last, hnames⟩ := exists_namesOf_eq hnil hlast
  obtain ⟨points, hpoints, hend⟩ :=
    namesOf_withoutEnd (path.toList.reverse.dropWhile (· ≠ '/'))
  obtain ⟨above, habove⟩ : ∃ above : String,
      above.toList = (withoutEnd (path.toList.reverse.dropWhile (· ≠ '/'))).reverse :=
    ⟨_, String.toList_ofList⟩
  refine ⟨above, ?_, ?_⟩
  · simp only [parentPath, hreversed, List.reverse_eq_nil_iff, hnil, hroot, or_self, if_false,
      ← habove, String.ofList_toList]
  · by_cases hnone : above = ""
    · exact Or.inl hnone
    · have hstart : above.toList <+: path.toList := by
        rw [habove, ← List.reverse_suffix, List.reverse_reverse]
        exact (withoutEnd_suffix _).trans (List.dropWhile_suffix _)
      obtain ⟨q, hq, hfromRoot, hqnames⟩ := ofText_of_prefix hp hstart hnone
      refine Or.inr ⟨q, points, hq, hfromRoot, hpoints, ?_⟩
      rw [hqnames, way, hparts, hnames, List.dropLast_concat, hend, habove]

end Path

/-! ## Following paths -/

namespace Files

variable {files : Files} {path content name : String} {names more : List String}
  {start place directory : Place} {entry : Entry} {p : Path}

theorem enter_append_eq_ok_iff : files.enter start (names ++ more) = .ok place ↔
    ∃ middle, files.enter start names = .ok middle ∧ files.enter middle more = .ok place := by
  induction names generalizing start with
  | nil => simp [enter]
  | cons name names ih =>
    simp only [List.cons_append, enter_cons_eq_ok_iff, ih, and_assoc, exists_and_left]

/-- A path leads to a directory if all its names can be entered. -/
theorem entryAt_eq_directory (hp : Path.ofText path = .ok p)
    (h : files.enter (if p.fromRoot then [] else files.base) p.names = .ok place) :
    files.entryAt path = .ok .directory := by
  rcases List.eq_nil_or_concat p.names with hnames | ⟨way, name, hnames⟩
  · simp [entryAt, bind, Except.bind, hp, directoryOf, Path.way, Path.entryName?, hnames, enter]
  · rw [List.concat_eq_append] at hnames
    rw [hnames, enter_append_eq_ok_iff] at h
    obtain ⟨directory, hdirectory, hname⟩ := h
    have hway : files.directoryOf p = .ok directory := by
      rw [directoryOf, Path.way, hnames, List.dropLast_concat, hdirectory]
    obtain ⟨hlast, -⟩ := enter_cons_eq_ok_iff.1 hname
    -- the last name is entered, or found
    by_cases hpoints : name = "." ∨ name = ".."
    · have hentry : p.entryName? = none := by
        rw [Path.entryName?, hnames, List.getLast?_concat]
        rcases hpoints with rfl | rfl <;> rfl
      simp [entryAt, bind, Except.bind, hp, hway, hentry]
    · have hentry : p.entryName? = some name := by
        rw [Path.entryName?, hnames, List.getLast?_concat]
        simpa using hpoints
      have hfound : files.entryIn directory name = .ok (some .directory) := by
        rw [← or_assoc] at hlast
        exact hlast.resolve_left hpoints
      simp [entryAt, bind, Except.bind, hp, hway, hentry, hfound]

/-- A path to a file leads to its name in a directory. -/
theorem leads_of_entryAt (h : files.entryAt path = .ok entry) (hfile : entry ≠ .directory) :
    ∃ directory name, files.Leads path directory name ∧
      files.get? (directory ++ [name]) = some entry := by
  simp only [entryAt, bind, Except.bind] at h
  split at h
  · cases h
  rename_i p hp
  split at h
  · cases h
  rename_i directory hdirectory
  split at h
  · cases h
    exact absurd rfl hfile
  rename_i name hname
  split at h
  · cases h
  rename_i found hfound
  rw [entryIn_eq_ok_iff] at hfound
  split at h
  · cases h
  rename_i entry'
  split_ifs at h with hslash
  cases h
  refine ⟨directory, name, ⟨⟨p, hp, hdirectory, hname, ?_⟩, hfound.1⟩, hfound.2⟩
  simpa [hfile] using hslash

theorem Leads.writeText (h : files.Leads path directory name)
    (hplace : files.get? (directory ++ [name]) ≠ some .directory) :
    files.writeText path content = .ok (files.put (directory ++ [name]) (.text content)) := by
  obtain ⟨⟨p, hp, hdirectory, hname, hslash⟩, hshort⟩ := h
  have hfound : files.entryIn directory name = .ok (files.get? (directory ++ [name])) :=
    entryIn_eq_ok_iff.2 ⟨hshort, rfl⟩
  simp only [Files.writeText, bind, Except.bind, hp, hdirectory, hname, hslash, hfound,
    Bool.false_eq_true, if_false]

/-! ## Directories -/

/-- What is there is not made. -/
theorem makeDirectory_of_entryAt (h : files.entryAt path = .ok entry) :
    files.makeDirectory path = .error .alreadyExists := by
  simp only [entryAt, makeDirectory, bind, Except.bind] at h ⊢
  cases hp : Path.ofText path with
  | error fault => simp [hp] at h
  | ok p =>
    cases hdirectory : files.directoryOf p with
    | error fault => simp [hp, hdirectory] at h
    | ok directory =>
      cases hname : p.entryName? with
      | none => simp [hdirectory, hname]
      | some name =>
        cases hfound : files.entryIn directory name with
        | error fault => simp [hp, hdirectory, hname, hfound] at h
        | ok found =>
          cases found with
          | none => simp [hp, hdirectory, hname, hfound] at h
          | some _ => simp [hdirectory, hname, hfound]

/-- No directory is made where one is. -/
theorem makeDirectories_of_entryAt (h : files.entryAt path = .ok .directory) :
    files.makeDirectories path = (files, none) := by
  have hensure : files.ensureDirectory path = (files, none) := by
    simp [ensureDirectory, makeDirectory_of_entryAt h, isDirectoryPath, h]
  rw [makeDirectories]
  cases path.length with
  | zero => rfl
  | succ bound =>
    rw [makeDirectoriesUpTo, hensure]
    split_ifs <;> rfl

/-- The path to a file, without its name, leads to the directory of the file, unless nothing is left
    of it. -/
theorem Leads.entryAt_parentPath (h : files.Leads path directory name) :
    ∃ above, parentPath path = some above ∧
      (above = "" ∨ files.entryAt above = .ok .directory) := by
  obtain ⟨⟨p, hp, hdirectory, hname, hslash⟩, -⟩ := h
  obtain ⟨above, habove, hleft⟩ := Path.parentPath_spec hp hname hslash
  refine ⟨above, habove, hleft.imp_right ?_⟩
  rintro ⟨q, points, hq, hroot, hpoints, hway⟩
  rw [directoryOf, hway, ← hroot, enter_append_eq_ok_iff] at hdirectory
  obtain ⟨middle, hmiddle, -⟩ := hdirectory
  exact entryAt_eq_directory hq hmiddle

end Files

end TaskQuery
