/-
  TaskQuery — reading command lines.

  A word is a command, a switch, some letters of switches, or an operand; after two
  dashes alone it is an operand.  A value may be attached to its switch or be the
  next word.  What was read last is checked only when it is settled: before the
  next switch or operand is accepted, or at the end.  An inner scope is read to
  its end before the outer one is settled.

  * `Level` is a scope as far as it is read, `Level.step` reads a word;
  * `readArguments` reads words to the end, and `Invocation.ofArguments` is what a
    command line asks for.
-/
import TaskQuery.Arguments.Invocation

namespace TaskQuery

/-! ## Levels -/

/-- What was read last and is not yet checked. -/
inductive Pending where
  /-- A switch that takes a value, with the value if there is one. -/
  | switch (switch : Switch) (value : Option String)
  /-- An operand. -/
  | operand (value : String)

/-- A scope as far as it is read. -/
structure Level where
  /-- The scope. -/
  scope : Scope
  /-- The values of the switches. -/
  options : Options := {}
  /-- The switches that were given. -/
  given : List Switch := []
  /-- The operands that were given. -/
  operands : List String := []
  /-- What was read last. -/
  pending : Option Pending := none
  /-- Whether two dashes were read. -/
  operandsOnly : Bool := false

namespace Level

/-- The level with a switch accepted. -/
def accept (l : Level) (switch : Switch) (value : Option String) : Except UsageFault Level := do
  if switch.takesValue ∧ value = none then .error .invalidValue
  else if switch ∈ l.given then .error .conflict
  else
    let options ← match value with
      | some value => l.options.withValue switch value
      | none => l.options.withSwitch switch
    .ok { l with options, given := switch :: l.given }

/-- The level with what was read last accepted. -/
def settle (l : Level) : Except UsageFault Level :=
  let settled := { l with pending := none }
  match l.pending with
  | none => .ok l
  | some (.switch switch value) => settled.accept switch value
  | some (.operand value) =>
    if l.scope = .completions ∧ (Shell.ofName? value).isNone then .error .invalidValue
    else .ok { settled with operands := l.operands ++ [value] }

/-- Whether a value has to follow. -/
def needsValue (l : Level) : Bool :=
  match l.pending with
  | some (.switch _ none) => true
  | _ => false

/-- The level after a switch, with the value that is attached to it, if any. -/
def readSwitch (l : Level) (switch : Switch) (attached : Option String) :
    Except UsageFault Level := do
  let l ← l.settle
  match attached with
  | some value => l.accept switch (some value)
  | none =>
    if switch.takesValue then .ok { l with pending := some (.switch switch none) }
    else l.accept switch none

/-- The level after a switch with a long name. -/
def readLong (l : Level) (name : String) (attached : Option String) : Except UsageFault Level :=
  match l.scope.longSwitch? name with
  | none => .error .unknownArgument
  | some switch =>
    if attached.isSome ∧ !switch.takesValue then .error .unwantedValue
    else l.readSwitch switch attached

/-- The value that is attached to a letter: the rest of the word, after an equals
    sign if there is one. -/
def attachedValue? : List Char → Option String
  | [] => none
  | '=' :: rest => some (String.ofList rest)
  | rest => some (String.ofList rest)

/-- The level after letters of switches, of which the first that takes a value
    takes the rest of the word. -/
def readLetters (l : Level) : List Char → Except UsageFault Level
  | [] => .ok l
  | c :: rest =>
    match l.scope.letterSwitch? c with
    | none => .error .unknownArgument
    | some switch =>
      if switch.takesValue then l.readSwitch switch (attachedValue? rest)
      else do readLetters (← l.readSwitch switch none) rest

/-- How many operands were read. -/
def operandsRead (l : Level) : Nat :=
  match l.pending with
  | some (.operand _) => l.operands.length + 1
  | _ => l.operands.length

/-- The level after an operand. -/
def readOperand (l : Level) (word : String) : Except UsageFault Level :=
  if l.operandsRead < l.scope.operandCount then
    l.settle.map fun l => { l with pending := some (.operand word) }
  else if l.operandsOnly ∧ (l.scope.destination? word).isSome then .error .unknownArgument
  else .error l.scope.strayFault

/-- The name and the attached value in a word after two dashes. -/
def splitLong (word : List Char) : String × Option String :=
  let name := String.ofList (word.takeWhile (· ≠ '='))
  match word.dropWhile (· ≠ '=') with
  | _ :: value => (name, some (String.ofList value))
  | [] => (name, none)

/-- The level after a word that is no command. -/
def step (l : Level) (word : String) : Except UsageFault Level :=
  if l.operandsOnly then l.readOperand word
  else match word.toList with
    | ['-', '-'] => .ok { l with operandsOnly := true }
    | '-' :: '-' :: rest =>
      let (name, attached) := splitLong rest
      l.readLong name attached
    | '-' :: c :: rest => l.readLetters (c :: rest)
    | _ =>
      match l.pending with
      | some (.switch switch none) => .ok { l with pending := some (.switch switch (some word)) }
      | _ => l.readOperand word

/-- The level at its end.  A switch that was not given takes its value from the
    environment, and two switches exclude each other. -/
def close (l : Level) (fileVariable : Option String) : Except UsageFault Level := do
  let l ← l.settle
  if .file ∉ l.given ∧ fileVariable = some "" then .error .invalidValue
  else if .quiet ∈ l.given ∧ .verbose ∈ l.given then .error .conflict
  else .ok l

end Level

/-! ## Command lines -/

/-- What a command line asks for that asks for help on some words. -/
def helpFault (scope : Scope) : List String → UsageFault
  | [] => .helpRequested
  | word :: words =>
    match scope.destination? word with
    | some (.scope inner) => helpFault inner words
    | some .help => if words = [] then .helpRequested else .unknownCommand
    | none => .unknownCommand

/-- Whether a word leads from a level to another scope. -/
def Level.destination? (l : Level) (word : String) : Option Destination :=
  if l.operandsOnly || l.needsValue then none else l.scope.destination? word

/-- Reads words to the end: the options, and the command of the innermost scope. -/
def readArguments (fileVariable : Option String) (l : Level) :
    List String → Except UsageFault (Options × Command)
  | [] => do
    let l ← l.close fileVariable
    let command ← l.options.command l.scope l.operands
    .ok (l.options, command)
  | word :: words =>
    match l.destination? word with
    | some .help => .error (helpFault l.scope words)
    | some (.scope inner) => do
      let (options, command) ← readArguments fileVariable { scope := inner } words
      let l ← l.close fileVariable
      .ok (l.options.merge options, command)
    | none => do readArguments fileVariable (← l.step word) words

/-- What a command line asks for.  The task file is the one named last, or else
    the one that a variable of the environment names. -/
def Invocation.ofArguments (fileVariable : Option String) (arguments : List String) :
    Except UsageFault Invocation := do
  let (options, command) ← readArguments fileVariable { scope := .program } arguments
  .ok ({ options with file := options.file <|> fileVariable }.invocation command)

end TaskQuery
