/-
  TaskQuery — what a command prints, and how it fails.

  * `Context` is what concerns every command, `Outcome` what a command prints and
    why it fails, if it does;
  * `CommandFault` says why a command fails: `CommandFault.code`, `message` and
    `exitStatus` are how that is told;
  * `Outcome.errorText` is everything that is written to the error stream.
-/
import TaskQuery.Display.Table
import TaskQuery.Display.QueryText
import TaskQuery.Settings.Assignment
import TaskQuery.Settings.Storage
import TaskQuery.Task.File

namespace TaskQuery

/-! ## Contexts -/

/-- What concerns every command. -/
structure Context where
  /-- Whether JSON is written. -/
  json : Bool := false
  /-- Whether colours are on. -/
  colors : Bool := false
  /-- Whether only errors are reported. -/
  quiet : Bool := false
  /-- Whether dates are shown as they are stored. -/
  isoDates : Bool := false
  /-- The current instant. -/
  now : Instant
  /-- The time zone. -/
  zone : Zone := .universal

/-- How tables are shown. -/
def Context.tableStyle (ctx : Context) : TableStyle where
  colors := ctx.colors
  isoDates := ctx.isoDates
  today := ctx.zone.today ctx.now

/-! ## Faults -/

/-- Why the configuration is at fault. -/
inductive ConfigurationFault where
  /-- The settings cannot be read or written. -/
  | storage (fault : StorageFault)
  /-- A setting is not changed. -/
  | assignment (fault : Settings.AssignmentFault)
  /-- Queries are to be read from something that is no terminal. -/
  | noTerminal
  deriving DecidableEq

/-- The sentence for a fault of the configuration. -/
def ConfigurationFault.message : ConfigurationFault → String
  | storage fault => fault.message
  | assignment fault => fault.message
  | noTerminal =>
    "Interactive mode needs a terminal. Use 'tf list --filter <EXPR>' instead."

/-- Why a command fails. -/
inductive CommandFault where
  /-- A query is rejected. -/
  | filter (rejection : Rejection)
  /-- The tasks cannot be loaded. -/
  | taskFile (fault : TaskFile.LoadFault)
  /-- The configuration is at fault. -/
  | configuration (fault : ConfigurationFault)
  deriving DecidableEq

namespace CommandFault

/-- The sentence for a fault. -/
def message : CommandFault → String
  | filter rejection => "filter error: " ++ rejection.message
  | taskFile fault => "task file error: " ++ fault.message
  | configuration fault => "configuration error: " ++ fault.message

/-- The code of a fault. -/
def code : CommandFault → String
  | filter _ => "FILTER_ERROR"
  | taskFile _ => "TASK_FILE_ERROR"
  | configuration _ => "CONFIG_ERROR"

/-- The exit status of a program that fails. -/
def exitStatus : CommandFault → Nat
  | filter _ => 1
  | taskFile _ | configuration _ => 5

/-- A fault as a JSON value. -/
def toJson (fault : CommandFault) : Json :=
  .object [("error", .object [("code", .string fault.code), ("message", .string fault.message)])]

/-- What is written about a fault. -/
def report (json : Bool) (fault : CommandFault) : String :=
  if json then fault.toJson.pretty ++ "\n" else "Error: " ++ fault.message ++ "\n"

end CommandFault

/-! ## Outcomes -/

/-- What a command prints, and why it fails, if it does. -/
structure Outcome where
  /-- What is written to the output. -/
  output : String := ""
  /-- What the command itself writes to the error stream. -/
  notice : String := ""
  /-- Why it fails. -/
  fault : Option CommandFault := none

namespace Outcome

/-- The outcome of printing a text. -/
def print (text : String) : Outcome where
  output := text

/-- The outcome of printing a JSON value. -/
def printJson (value : Json) : Outcome :=
  print (value.pretty ++ "\n")

/-- The outcome of failing. -/
def fail (fault : CommandFault) : Outcome where
  fault := some fault

/-- The exit status of the program. -/
def exitStatus (o : Outcome) : Nat :=
  match o.fault with
  | some fault => fault.exitStatus
  | none => 0

/-- Everything that is written to the error stream. -/
def errorText (json : Bool) (o : Outcome) : String :=
  o.notice ++ match o.fault with
    | some fault => fault.report json
    | none => ""

end Outcome

end TaskQuery
