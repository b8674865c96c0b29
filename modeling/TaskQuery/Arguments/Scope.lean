/-
  TaskQuery — what may stand on a command line.

  A command line is read from scope to scope: the program, a command of it, a
  command of that one.  Each scope knows some switches, some of which take a
  value, a number of operands, and the names of inner scopes.

  * `Scope` and `Switch` are the scopes and the switches;
  * `Scope.switches`, `Scope.operandCount` and `Scope.inner?` say what a scope
    knows;
  * `UsageFault` says why a command line is refused, or what it asks for instead
    of a command.
-/
import TaskQuery.Number.Numeral
import TaskQuery.Task.Listing

namespace TaskQuery

/-- Why a command line is refused, or what it asks for instead of a command. -/
inductive UsageFault where
  /-- Help is asked for. -/
  | helpRequested
  /-- The version is asked for. -/
  | versionRequested
  /-- A word is no command. -/
  | unknownCommand
  /-- A word is no switch, or one operand too many. -/
  | unknownArgument
  /-- A value is missing, or none of those that may be chosen. -/
  | invalidValue
  /-- A value is no count. -/
  | unreadableValue
  /-- A switch without a value has got one. -/
  | unwantedValue
  /-- A switch is given twice, or with one that excludes it. -/
  | conflict
  /-- An operand is missing. -/
  | missingOperand
  deriving DecidableEq

/-- The exit status of the program after a command line that is no command: zero if
    something was asked for instead. -/
def UsageFault.exitStatus : UsageFault → Nat
  | helpRequested | versionRequested => 0
  | _ => 2

/-! ## Switches -/

/-- A switch. -/
inductive Switch where
  /-- Report more. -/
  | verbose
  /-- Report errors only. -/
  | quiet
  /-- Write JSON. -/
  | json
  /-- Write without colours. -/
  | noColor
  /-- The path of the task file. -/
  | file
  /-- Ask for help. -/
  | help
  /-- Ask for the version. -/
  | version
  /-- The query of a list. -/
  | filter
  /-- Fail if the query is rejected. -/
  | strict
  /-- What the list is sorted by. -/
  | sort
  /-- Reverse the list. -/
  | reverse
  /-- How many tasks are listed at most. -/
  | limit
  /-- List all tasks. -/
  | all
  /-- Show the tokens. -/
  | tokens
  deriving DecidableEq

namespace Switch

/-- The long name of a switch, which follows two dashes. -/
def longName : Switch → String
  | verbose => "verbose"
  | quiet => "quiet"
  | json => "json"
  | noColor => "no-color"
  | file => "file"
  | help => "help"
  | version => "version"
  | filter => "filter"
  | strict => "strict"
  | sort => "sort"
  | reverse => "reverse"
  | limit => "limit"
  | all => "all"
  | tokens => "tokens"

/-- The letter of a switch, which follows one dash. -/
def letter? : Switch → Option Char
  | verbose => some 'v'
  | quiet => some 'q'
  | file => some 'f'
  | help => some 'h'
  | version => some 'V'
  | filter => some 'F'
  | _ => none

/-- Whether a switch takes a value. -/
def takesValue : Switch → Bool
  | file | filter | sort | limit => true
  | _ => false

/-- The switches that are known in every scope. -/
def common : List Switch := [verbose, quiet, json, noColor, file, help, version]

end Switch

/-! ## Scopes -/

/-- A scope of a command line. -/
inductive Scope where
  /-- The program. -/
  | program
  /-- The command that lists tasks. -/
  | list
  /-- The command that checks a query. -/
  | check
  /-- The command that reads queries one after the other. -/
  | interactive
  /-- The commands for settings. -/
  | config
  /-- The command that shows the settings. -/
  | configShow
  /-- The command that changes a setting. -/
  | configSet
  /-- The command that shows the path of the settings file. -/
  | configPath
  /-- The command that writes a script for a shell. -/
  | completions
  deriving DecidableEq

namespace Scope

/-- The switches that are known in a scope. -/
def switches : Scope → List Switch
  | list => Switch.common ++ [.filter, .strict, .sort, .reverse, .limit, .all]
  | check => Switch.common ++ [.tokens]
  | _ => Switch.common

/-- How many operands there are in a scope. -/
def operandCount : Scope → Nat
  | check | completions => 1
  | configSet => 2
  | _ => 0

/-- The scopes in a scope, by name. -/
def inner : Scope → List (String × Scope)
  | program =>
    [("list", list), ("l", list), ("check", check), ("c", check), ("interactive", interactive),
      ("i", interactive), ("config", config), ("completions", completions)]
  | config => [("show", configShow), ("set", configSet), ("path", configPath)]
  | _ => []

/-- Whether there are scopes in a scope. -/
def isOuter (scope : Scope) : Bool :=
  !scope.inner.isEmpty

/-- The switch with a long name. -/
def longSwitch? (scope : Scope) (name : String) : Option Switch :=
  scope.switches.find? (·.longName = name)

/-- The switch with a letter. -/
def letterSwitch? (scope : Scope) (letter : Char) : Option Switch :=
  scope.switches.find? (·.letter? = some letter)

end Scope

/-- What a word that is a command leads to. -/
inductive Destination where
  /-- Help. -/
  | help
  /-- A scope. -/
  | scope (scope : Scope)

/-- What a word leads to in a scope, if it is a command there. -/
def Scope.destination? (scope : Scope) (word : String) : Option Destination :=
  match scope.inner.lookup word with
  | some inner => some (.scope inner)
  | none => if scope.isOuter ∧ word = "help" then some .help else none

/-- The fault of a word that is nothing in a scope. -/
def Scope.strayFault (scope : Scope) : UsageFault :=
  if scope.isOuter then .unknownCommand else .unknownArgument

/-! ## Values to choose from -/

/-- The name of a sort key. -/
def SortKey.name : SortKey → String
  | due => "due"
  | priority => "priority"
  | created => "created"
  | title => "title"

/-- The sort key with a name. -/
def SortKey.ofName? (name : String) : Option SortKey :=
  [due, priority, created, title].find? (·.name = name)

/-- A sort key is found by its own name. -/
theorem SortKey.ofName?_name (key : SortKey) : ofName? key.name = some key := by
  cases key <;> decide

/-- A shell. -/
inductive Shell where
  /-- The shell `bash`. -/
  | bash
  /-- The shell `zsh`. -/
  | zsh
  /-- The shell `fish`. -/
  | fish
  /-- The shell `powershell`. -/
  | powershell
  deriving DecidableEq

/-- The name of a shell. -/
def Shell.name : Shell → String
  | bash => "bash"
  | zsh => "zsh"
  | fish => "fish"
  | powershell => "powershell"

/-- The shell with a name. -/
def Shell.ofName? (name : String) : Option Shell :=
  [bash, zsh, fish, powershell].find? (·.name = name)

/-- A shell is found by its own name. -/
theorem Shell.ofName?_name (shell : Shell) : ofName? shell.name = some shell := by
  cases shell <;> decide

end TaskQuery
