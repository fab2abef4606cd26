import ArtifactRegistry.Text.Split

/-! # Arguments

Arguments are switches, options with a value, and operands. A value is the argument behind its option
or follows an equals sign; an argument that starts with a dash is no value of its own. Short switches
may be written in one argument. Behind two dashes everything is an operand. Reading stops at a
request for help or for the version, at the name of a subcommand, and at the first mistake.
-/

namespace ArtifactRegistry

inductive UsageError where
  | unexpectedArgument (argument : String)
  | missingValue (option : String)
  | unexpectedValue (option : String)
  | repeated (option : String)
  | missingArgument (name : String)
  | unknownCommand (name : String)
  | missingCommand
deriving DecidableEq, Repr

def UsageError.message : UsageError → String
  | unexpectedArgument argument => s!"unexpected argument '{argument}' found"
  | missingValue option => s!"a value is required for '--{option}' but none was supplied"
  | unexpectedValue option => s!"unexpected value for '--{option}' found"
  | repeated option => s!"the argument '--{option}' cannot be used multiple times"
  | missingArgument name => s!"the required argument '{name}' was not provided"
  | unknownCommand name => s!"unrecognized subcommand '{name}'"
  | missingCommand => "a subcommand is required but one was not provided"

/-- Why reading ends before the arguments do. -/
inductive Stop where
  | help
  | version
  | mistake (error : UsageError)
deriving DecidableEq, Repr

/-- What a switch does. -/
inductive Switch where
  /-- Counts how often it is given. -/
  | counted
  /-- May be given once. -/
  | single
  | help
  | version
deriving DecidableEq, Repr

/-- Which arguments there are. -/
structure Grammar where
  /-- Switches by long name, with a short name if they have one. -/
  switches : List (String × Option Char × Switch)
  /-- Options by name, and whether their values may be empty. -/
  options : List (String × Bool)
  /-- Whether the first operand is the name of a subcommand. -/
  hasCommands : Bool := false
  /-- At most so many operands, if there is a limit. -/
  operandLimit : Option Nat := some 0

/-- The arguments that were given. -/
structure Given where
  switches : List String := []
  options : List (String × String) := []
  operands : List String := []

namespace Given

def count (name : String) (found : Given) : Nat := found.switches.count name

def has (name : String) (found : Given) : Bool := found.switches.contains name

def value? (name : String) (found : Given) : Option String := found.options.lookup name

/-- The value of an option that must be given. -/
def require (name : String) (found : Given) : Except Stop String :=
  match found.value? name with
  | some value => .ok value
  | none => .error (.mistake (.missingArgument name))

end Given

namespace Grammar

/-- Takes a switch. -/
def takeSwitch (name : String) (switch : Switch) (found : Given) : Except Stop Given :=
  match switch with
  | .help => .error .help
  | .version => .error .version
  | .single =>
    if found.has name then .error (.mistake (.repeated name))
    else .ok { found with switches := name :: found.switches }
  | .counted => .ok { found with switches := name :: found.switches }

/-- Takes an option with its value. -/
def takeOption (grammar : Grammar) (name value : String) (found : Given) : Except Stop Given :=
  if (found.value? name).isSome then .error (.mistake (.repeated name))
  else if value = "" ∧ grammar.options.lookup name = some false then
    .error (.mistake (.missingValue name))
  else .ok { found with options := found.options ++ [(name, value)] }

def takeOperand (grammar : Grammar) (text : String) (found : Given) : Except Stop Given :=
  if grammar.operandLimit.any (· ≤ found.operands.length) then
    .error (.mistake (.unexpectedArgument text))
  else .ok { found with operands := found.operands ++ [text] }

/-- Takes the short switches of one argument. -/
def takeShort (grammar : Grammar) (found : Given) (letters : List Char) : Except Stop Given :=
  letters.foldlM (fun found letter =>
    match grammar.switches.find? fun switch => switch.2.1 = some letter with
    | some (name, _, switch) => takeSwitch name switch found
    | none => .error (.mistake (.unexpectedArgument (String.ofList ['-', letter])))) found

/-- How an argument looks. -/
inductive Shape where
  | long (name : String) (value : Option String)
  | short (letters : List Char)
  | separator
  | operand
deriving DecidableEq, Repr

def shape (argument : String) : Shape :=
  match argument.toList with
  | ['-', '-'] => .separator
  | '-' :: '-' :: text =>
    match Text.splitFirst? '=' (String.ofList text) with
    | some (name, value) => .long name (some value)
    | none => .long (String.ofList text) none
  | ['-'] => .operand
  | '-' :: letters => .short letters
  | _ => .operand

/-- Reads arguments, up to the name of a subcommand if there is one. Returns that name with the
arguments behind it. -/
def read (grammar : Grammar) (found : Given) :
    List String → Except Stop (Given × Option (String × List String))
  | [] => .ok (found, none)
  | argument :: rest => do
    match shape argument with
    | .separator =>
      let found ← rest.foldlM (fun found text => grammar.takeOperand text found) found
      return (found, none)
    | .short letters => read grammar (← grammar.takeShort found letters) rest
    | .operand =>
      if grammar.hasCommands then return (found, some (argument, rest))
      read grammar (← grammar.takeOperand argument found) rest
    | .long name value =>
      match grammar.switches.lookup name, value with
      | some _, some _ => throw (.mistake (.unexpectedValue name))
      | some (_, switch), none => read grammar (← takeSwitch name switch found) rest
      | none, some value =>
        if (grammar.options.lookup name).isNone then
          throw (.mistake (.unexpectedArgument argument))
        read grammar (← grammar.takeOption name value found) rest
      | none, none =>
        if (grammar.options.lookup name).isNone then
          throw (.mistake (.unexpectedArgument argument))
        match rest with
        | [] => throw (.mistake (.missingValue name))
        | value :: rest =>
          if shape value ≠ .operand then throw (.mistake (.missingValue name))
          read grammar (← grammar.takeOption name value found) rest

end Grammar

end ArtifactRegistry
