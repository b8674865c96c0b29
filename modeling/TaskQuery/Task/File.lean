/-
  TaskQuery — task files.

  A task file is JSON: an array of tasks, or an object with such an array under
  the key `tasks`, which occurs once; other keys are ignored.  A value of any
  other shape is refused before the text after it is looked at.

  * `TaskFile.Fault` says why a text is no task file;
  * `TaskFile.ofJson?` are the tasks of a JSON value, `TaskFile.decode` those of
    a text, and `TaskFile.load` those of a file that may be missing or
    unreadable.
-/
import TaskQuery.Files.Basic
import TaskQuery.Json.Reading
import TaskQuery.Task.Decoding

namespace TaskQuery.TaskFile

/-- Why a text is no task file. -/
inductive Fault where
  /-- The text is not JSON. -/
  | malformed (fault : Json.Fault)
  /-- The text is JSON of another shape. -/
  | wrongShape
  deriving DecidableEq

/-- The tasks of an array. -/
def tasksOf? : Json → Option (List Task)
  | .array items => items.mapM Task.ofJson?
  | _ => none

/-- The tasks of a JSON value. -/
def ofJson? : Json → Option (List Task)
  | .object members =>
    match Json.membersNamed "tasks" members with
    | [value] => tasksOf? value
    | _ => none
  | value => tasksOf? value

/-- The tasks of a text. -/
def decode (text : String) : Except Fault (List Task) :=
  match Json.readValue text.toList with
  | .error fault => .error (.malformed fault)
  | .ok (value, rest) =>
    match ofJson? value with
    | none => .error .wrongShape
    | some tasks =>
      if Json.skipBlanks rest = [] then .ok tasks else .error (.malformed .syntaxError)

/-! ## Loading -/

/-- Why a task file cannot be loaded. -/
inductive LoadFault where
  /-- There is no home directory to look for a file in. -/
  | homeless
  /-- The file at a path cannot be read. -/
  | unreadable (path : String) (fault : FileFault)
  /-- The text of the file is no task file. -/
  | undecodable (fault : Fault)
  deriving DecidableEq

/-- The sentence for a text that is no task file. -/
def Fault.message : Fault → String
  | .malformed .syntaxError => "JSON error: invalid syntax"
  | .malformed .earlyEnd => "JSON error: unexpected end of text"
  | .wrongShape => "JSON error: data did not match any variant of untagged enum TaskFile"

/-- The sentence for a file that cannot be loaded. -/
def LoadFault.message : LoadFault → String
  | .homeless => "failed to determine data directory: no valid home directory found"
  | .unreadable path fault => "failed to read task file '" ++ path ++ "': " ++ fault.message
  | .undecodable fault => fault.message

/-- The tasks in the file at a path. -/
def load (files : Files) (path : String) : Except LoadFault (List Task) :=
  match files.readText path with
  | .error fault => .error (.unreadable path fault)
  | .ok text => (decode text).mapError .undecodable

/-- The tasks in the file at a path, and none if there is no such file. -/
def loadOrEmpty (files : Files) (path : String) : Except LoadFault (List Task) :=
  match load files path with
  | .error (.unreadable _ .notFound) => .ok []
  | result => result

end TaskQuery.TaskFile
