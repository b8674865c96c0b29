/-
  TaskQuery — the paths of files.

  A path names, from the root or from where paths start, the directories on the way
  and what lies in the last of them.  A name is what stands between two slashes; a
  single point means the directory that is reached so far, and two points the one
  above it.

  * `Path` are the names in a path, and `Path.ofText` those of a text;
    `FileFault` says why a path, or what it leads to, cannot be used;
  * `Path.entryName?` is the name of what a path leads to in the last directory;
  * `parentPath` takes the last name off a path, and `joinPath` adds one.
-/

namespace TaskQuery

/-! ## Faults -/

/-- Why an operation on a path fails. -/
inductive FileFault where
  /-- Nothing is there. -/
  | notFound
  /-- Something is there already. -/
  | alreadyExists
  /-- Something on the way is no directory. -/
  | notDirectory
  /-- A directory is there, and no file. -/
  | isDirectory
  /-- The path or a name in it has too many bytes. -/
  | nameTooLong
  /-- The path contains a character that no name can have. -/
  | nulByte
  /-- The bytes of the file are no text. -/
  | notText
  deriving DecidableEq

/-- The sentence for a fault. -/
def FileFault.message : FileFault → String
  | notFound => "No such file or directory (os error 2)"
  | alreadyExists => "File exists (os error 17)"
  | notDirectory => "Not a directory (os error 20)"
  | isDirectory => "Is a directory (os error 21)"
  | nameTooLong => "File name too long (os error 36)"
  | nulByte => "file name contained an unexpected NUL byte"
  | notText => "stream did not contain valid UTF-8"

/-! ## Paths -/

/-- A path. -/
structure Path where
  /-- Whether the path starts at the root. -/
  fromRoot : Bool
  /-- The names in the path. -/
  names : List String
  /-- Whether a slash stands after the last name. -/
  endsInSlash : Bool
  deriving DecidableEq

namespace Path

/-- How many bytes a name has at most. -/
def maxNameBytes : Nat := 255

/-- How many bytes a path has at most. -/
def maxBytes : Nat := 4095

/-- The pieces of a text between the slashes. -/
def pieces : List Char → List (List Char)
  | [] => [[]]
  | c :: rest =>
    match pieces rest with
    | piece :: others => if c = '/' then [] :: piece :: others else (c :: piece) :: others
    | [] => [[c]]

/-- The path that a text is.  The empty text leads nowhere. -/
def ofText (text : String) : Except FileFault Path :=
  if '\x00' ∈ text.toList then .error .nulByte
  else if text = "" then .error .notFound
  else if maxBytes < text.utf8ByteSize then .error .nameTooLong
  else .ok {
    fromRoot := text.toList.head? = some '/'
    names := ((pieces text.toList).filter (· ≠ [])).map String.ofList
    endsInSlash := text.toList.getLast? = some '/' }

/-- The names of the directories on the way. -/
def way (path : Path) : List String :=
  path.names.dropLast

/-- The name of what a path leads to; none if it leads to a directory that it has
    passed already, or to the one in which it starts. -/
def entryName? (path : Path) : Option String :=
  path.names.getLast?.filter fun name => name ≠ "." ∧ name ≠ ".."

end Path

/-! ## Paths as texts -/

/-- A text, read from its end, without the slashes there and the points that stand
    alone between slashes.  A slash or a point at the start stays. -/
def withoutEnd : List Char → List Char
  | ['/'] => ['/']
  | '/' :: rest => withoutEnd rest
  | ['.', '/'] => ['/']
  | '.' :: '/' :: rest => withoutEnd rest
  | reversed => reversed

/-- The path of the directory in which the last name of a path lies; none if the
    path has no name. -/
def parentPath (path : String) : Option String :=
  let reversed := withoutEnd path.toList.reverse
  if reversed = [] ∨ reversed = ['/'] then none
  else some (String.ofList (withoutEnd (reversed.dropWhile (· ≠ '/'))).reverse)

/-- A path with a name after it. -/
def joinPath (path name : String) : String :=
  if path = "" ∨ path.toList.getLast? = some '/' then path ++ name else path ++ "/" ++ name

end TaskQuery
