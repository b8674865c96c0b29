/-
  TaskQuery — invocations: what a command line asks for.

  * `Options` are the values of the switches; `Options.merge` joins those of an
    outer and an inner scope;
  * `Command` is what is to be done, and `Invocation` that together with what
    concerns every command.
-/
import TaskQuery.Arguments.Scope

namespace TaskQuery

/-! ## Options -/

/-- The values of the switches. -/
structure Options where
  /-- Report errors only. -/
  quiet : Bool := false
  /-- Write JSON. -/
  json : Bool := false
  /-- Write without colours. -/
  noColor : Bool := false
  /-- The path of the task file. -/
  file : Option String := none
  /-- The query of a list. -/
  filter : Option String := none
  /-- Fail if the query is rejected. -/
  strict : Bool := false
  /-- What the list is sorted by. -/
  sort : Option SortKey := none
  /-- Reverse the list. -/
  reverse : Bool := false
  /-- How many tasks are listed at most. -/
  limit : Option Count := none
  /-- List all tasks. -/
  all : Bool := false
  /-- Show the tokens. -/
  tokens : Bool := false
  deriving DecidableEq

namespace Options

/-- The options with a switch given that takes no value. -/
def withSwitch (o : Options) : Switch → Except UsageFault Options
  | .help => .error .helpRequested
  | .version => .error .versionRequested
  | .quiet => .ok { o with quiet := true }
  | .json => .ok { o with json := true }
  | .noColor => .ok { o with noColor := true }
  | .strict => .ok { o with strict := true }
  | .reverse => .ok { o with reverse := true }
  | .all => .ok { o with all := true }
  | .tokens => .ok { o with tokens := true }
  | _ => .ok o

/-- The options with a switch given that takes a value. -/
def withValue (o : Options) (switch : Switch) (value : String) : Except UsageFault Options :=
  match switch with
  | .file => if value = "" then .error .invalidValue else .ok { o with file := some value }
  | .filter => .ok { o with filter := some value }
  | .sort =>
    match SortKey.ofName? value with
    | some key => .ok { o with sort := some key }
    | none => .error .invalidValue
  | .limit =>
    match Count.ofSignedText? value with
    | some n => .ok { o with limit := some n }
    | none => .error .unreadableValue
  | _ => .ok o

/-- The options of an outer and an inner scope; the inner ones come first. -/
def merge (outer inner : Options) : Options where
  quiet := outer.quiet || inner.quiet
  json := outer.json || inner.json
  noColor := outer.noColor || inner.noColor
  file := inner.file <|> outer.file
  filter := inner.filter <|> outer.filter
  strict := outer.strict || inner.strict
  sort := inner.sort <|> outer.sort
  reverse := outer.reverse || inner.reverse
  limit := inner.limit <|> outer.limit
  all := outer.all || inner.all
  tokens := outer.tokens || inner.tokens

end Options

/-! ## Commands -/

/-- What is to be listed. -/
structure ListRequest where
  /-- The query, if one is given. -/
  filter : Option String := none
  /-- Whether to fail if the query is rejected. -/
  strict : Bool := false
  /-- What the tasks are sorted by, if anything. -/
  sort : Option SortKey := none
  /-- Whether the tasks are reversed. -/
  reverse : Bool := false
  /-- How many tasks are shown at most, if that is given. -/
  limit : Option Count := none
  /-- Whether all tasks are shown. -/
  all : Bool := false
  deriving DecidableEq

/-- What is to be done with the settings. -/
inductive ConfigRequest where
  /-- Show them. -/
  | overview
  /-- Change one. -/
  | assign (name value : String)
  /-- Show the path of their file. -/
  | path
  deriving DecidableEq

/-- What is to be done. -/
inductive Command where
  /-- Say how to get help. -/
  | greet
  /-- List tasks. -/
  | list (request : ListRequest)
  /-- Check a query, perhaps showing its tokens. -/
  | check (query : String) (tokens : Bool)
  /-- Read queries one after the other. -/
  | interactive
  /-- Show or change the settings. -/
  | config (request : ConfigRequest)
  /-- Write a script for a shell. -/
  | completions (shell : Shell)
  deriving DecidableEq

/-- Whether a command is about the settings. -/
def Command.isConfig : Command → Bool
  | config _ => true
  | _ => false

/-- What a command line asks for. -/
structure Invocation where
  /-- What is to be done. -/
  command : Command := .greet
  /-- Whether only errors are reported. -/
  quiet : Bool := false
  /-- Whether JSON is written. -/
  json : Bool := false
  /-- Whether to write without colours. -/
  noColor : Bool := false
  /-- The path of the task file, if it is named. -/
  file : Option String := none
  deriving DecidableEq

/-- The request that options stand for. -/
def Options.listRequest (o : Options) : ListRequest where
  filter := o.filter
  strict := o.strict
  sort := o.sort
  reverse := o.reverse
  limit := o.limit
  all := o.all

/-- The command of a scope with its operands. -/
def Options.command (o : Options) : Scope → List String → Except UsageFault Command
  | .program, _ => .ok .greet
  | .list, _ => .ok (.list o.listRequest)
  | .check, [query] => .ok (.check query o.tokens)
  | .interactive, _ => .ok .interactive
  | .config, _ | .configShow, _ => .ok (.config .overview)
  | .configSet, [name, value] => .ok (.config (.assign name value))
  | .configPath, _ => .ok (.config .path)
  | .completions, [name] =>
    match Shell.ofName? name with
    | some shell => .ok (.completions shell)
    | none => .error .invalidValue
  | .check, _ | .configSet, _ | .completions, _ => .error .missingOperand

/-- The invocation of a command with options. -/
def Options.invocation (o : Options) (command : Command) : Invocation where
  command := command
  quiet := o.quiet
  json := o.json
  noColor := o.noColor
  file := o.file

end TaskQuery
