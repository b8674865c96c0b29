/-
  TaskQuery — a tree of files.

  A place is the list of names on the way from the root.  Directories are there
  because they were made or because something lies in them.

  * `Files` are the entries of a tree, `Files.get?` what is at a place, and
    `Files.put` the tree with an entry added or replaced;
  * `Files.directoryOf` is the directory in which a path ends, found name by name;
  * `Files.readText`, `Files.writeText` and `Files.makeDirectories` are the
    operations on paths;
  * `Files.get?_put_self` and `Files.get?_put`: an entry that was put is there, and
    nothing else changes but directories on the way, which are made where nothing was.
-/
import TaskQuery.Files.Path

namespace TaskQuery

/-! ## Entries -/

/-- A place: the names on the way from the root. -/
abbrev Place := List String

/-- The place that a name leads to from another. -/
def Place.after (place : Place) (name : String) : Place :=
  if name = "." then place else if name = ".." then place.dropLast else place ++ [name]

/-- What is at a place. -/
inductive Entry where
  /-- A file with a text. -/
  | text (content : String)
  /-- A file whose bytes are no text. -/
  | bytes
  /-- A directory. -/
  | directory
  deriving DecidableEq

/-- The entry of a file with some bytes. -/
def Entry.ofBytes (bytes : ByteArray) : Entry :=
  match String.fromUTF8? bytes with
  | some content => .text content
  | none => .bytes

/-- A tree of files: the entries that were put there, the latest first, and the
    place at which paths start that do not start at the root. -/
structure Files where
  /-- The entries, the latest first. -/
  entries : List (Place × Entry)
  /-- Where other paths start. -/
  base : Place := []

namespace Files

/-- Whether a place is a directory because something lies in it, or because other
    paths start there. -/
def inUse (files : Files) (place : Place) : Bool :=
  place.isPrefixOf files.base || files.entries.any fun (other, _) => place.isPrefixOf other

/-- What is at a place. -/
def get? (files : Files) (place : Place) : Option Entry :=
  match files.entries.lookup place with
  | some entry => some entry
  | none => if files.inUse place then some .directory else none

/-- The tree with an entry added or replaced. -/
def put (files : Files) (place : Place) (entry : Entry) : Files :=
  { files with entries := (place, entry) :: files.entries }

/-- An entry that was put is there. -/
theorem get?_put_self (files : Files) (place : Place) (entry : Entry) :
    (files.put place entry).get? place = some entry := by
  simp [get?, put]

/-- A place that is in use stays in use. -/
theorem inUse_put (files : Files) {place other : Place} (entry : Entry)
    (h : files.inUse other = true) : (files.put place entry).inUse other = true := by
  rcases Bool.or_eq_true_iff.1 h with hb | he
  · simp [inUse, put, hb]
  · simp only [inUse, put, List.any_cons, he, Bool.or_true]

/-- Elsewhere a directory may be made where nothing was, and everything stays. -/
theorem get?_put (files : Files) {place other : Place} (entry : Entry) (h : other ≠ place) :
    (files.put place entry).get? other = files.get? other ∨
      (files.get? other = none ∧ (files.put place entry).get? other = some .directory) := by
  have hb : (other == place) = false := by simpa using h
  have hl : (files.put place entry).entries.lookup other = files.entries.lookup other := by
    simp only [put, List.lookup_cons, hb]
  simp only [get?, hl]
  cases hf : files.entries.lookup other with
  | some found => exact Or.inl rfl
  | none =>
    cases hu : files.inUse other with
    | true => simp [files.inUse_put entry hu]
    | false => cases (files.put place entry).inUse other <;> simp

/-! ## Following paths -/

/-- What has a name in a directory. -/
def entryIn (files : Files) (directory : Place) (name : String) :
    Except FileFault (Option Entry) :=
  if Path.maxNameBytes < name.utf8ByteSize then .error .nameTooLong
  else .ok (files.get? (directory ++ [name]))

/-- The directory that is reached from a directory by names, each of which has to
    lead to a directory. -/
def enter (files : Files) (directory : Place) : List String → Except FileFault Place
  | [] => .ok directory
  | name :: names =>
    if name = "." then files.enter directory names
    else if name = ".." then files.enter directory.dropLast names
    else match files.entryIn directory name with
      | .ok (some .directory) => files.enter (directory ++ [name]) names
      | .ok (some _) => .error .notDirectory
      | .ok none => .error .notFound
      | .error fault => .error fault

/-- The directory in which a path ends. -/
def directoryOf (files : Files) (path : Path) : Except FileFault Place :=
  files.enter (if path.fromRoot then [] else files.base) path.way

/-- What a path leads to.  A path with a slash at its end leads to a directory. -/
def entryAt (files : Files) (path : String) : Except FileFault Entry := do
  let path ← Path.ofText path
  let directory ← files.directoryOf path
  match path.entryName? with
  | none => .ok .directory
  | some name =>
    match ← files.entryIn directory name with
    | none => .error .notFound
    | some entry =>
      if path.endsInSlash ∧ entry ≠ .directory then .error .notDirectory else .ok entry

/-- Whether a path leads to something. -/
def pathExists (files : Files) (path : String) : Bool :=
  (files.entryAt path).isOk

/-- Whether a path leads to a directory. -/
def isDirectoryPath (files : Files) (path : String) : Bool :=
  match files.entryAt path with
  | .ok .directory => true
  | _ => false

/-! ## Operations -/

/-- The text of the file that a path leads to. -/
def readText (files : Files) (path : String) : Except FileFault String := do
  match ← files.entryAt path with
  | .text content => .ok content
  | .bytes => .error .notText
  | .directory => .error .isDirectory

/-- The tree in which the file that a path leads to has a text.  A path with a
    slash at its end asks for a directory. -/
def writeText (files : Files) (path content : String) : Except FileFault Files := do
  let path ← Path.ofText path
  let directory ← files.directoryOf path
  match path.entryName? with
  | none => .error .isDirectory
  | some name =>
    if path.endsInSlash then .error .isDirectory
    else match ← files.entryIn directory name with
      | some .directory => .error .isDirectory
      | _ => .ok (files.put (directory ++ [name]) (.text content))

/-- The tree with a directory made where a path leads. -/
def makeDirectory (files : Files) (path : String) : Except FileFault Files := do
  let path ← Path.ofText path
  let directory ← files.directoryOf path
  match path.entryName? with
  | none => .error .alreadyExists
  | some name =>
    match ← files.entryIn directory name with
    | some _ => .error .alreadyExists
    | none => .ok (files.put (directory ++ [name]) .directory)

/-- The tree with a directory made where a path leads, unless there is one, and why
    there is none then. -/
def ensureDirectory (files : Files) (path : String) : Files × Option FileFault :=
  match files.makeDirectory path with
  | .ok made => (made, none)
  | .error fault => (files, if files.isDirectoryPath path then none else some fault)

/-- The tree with a directory made where a path leads, and the directories on the
    way, at most as many as the number says. -/
def makeDirectoriesUpTo (files : Files) : Nat → String → Files × Option FileFault
  | 0, _ => (files, none)
  | bound + 1, path =>
    if path = "" then (files, none)
    else match files.ensureDirectory path with
      | (_, some .notFound) =>
        match files.makeDirectoriesUpTo bound ((parentPath path).getD "") with
        | (made, none) => made.ensureDirectory path
        | result => result
      | result => result

/-- The tree with a directory made where a path leads, and the directories on the
    way, and why it cannot be made, if so; those that were made before stay.  Every
    step up shortens the path. -/
def makeDirectories (files : Files) (path : String) : Files × Option FileFault :=
  files.makeDirectoriesUpTo path.length path

end Files

end TaskQuery
