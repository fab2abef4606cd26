import ArtifactRegistry.Command
import ArtifactRegistry.Command.Arguments

/-! # The command line

Some options are for every command and may stand before or behind its name; those behind it count.
-/

namespace ArtifactRegistry

/-- What a command line asks for. -/
structure Invocation where
  /-- How often more logging was asked for. -/
  verbosity : Nat
  /-- The file with the configuration. -/
  configuration : Option String
  command : Command
deriving DecidableEq, Repr

namespace Invocation

/-- The grammar of a command with the switches and options that all commands have. -/
def grammar (switches : List (String × Option Char × Switch)) (options : List (String × Bool))
    (operandLimit : Option Nat) : Grammar where
  switches := [("verbose", some 'v', .counted), ("help", some 'h', .help)] ++ switches
  options := ("config", false) :: options
  operandLimit

/-- The grammar in front of the name of a command. -/
def front : Grammar :=
  { grammar [("version", some 'V', .version)] [] (some 0) with hasCommands := true }

/-- The file that a command is given, which has a name. -/
def file (found : Given) : Except Stop String :=
  match found.operands with
  | file :: _ => if file = "" then .error (.mistake (.missingValue "file")) else .ok file
  | [] => .error (.mistake (.missingArgument "file"))

/-- The name of every command, its grammar, and how it is made from its arguments. -/
def commands : List (String × Grammar × (Given → Except Stop Command)) :=
  [("blob-put", grammar [] [("media-type", true)] (some 1), fun found => do
      let mediaType := (found.value? "media-type").getD "application/octet-stream"
      return .blobPut mediaType (← file found)),
    ("put", grammar [("skip-verification", none, .single)]
      [("repository", true), ("content-type", true)] (some 1), fun found => do
      return .put (← found.require "repository") ((found.value? "content-type").getD "")
        (found.has "skip-verification") (← file found)),
    ("referrers", grammar [] [("repository", true), ("subject", true), ("artifact-type", true)]
      (some 0), fun found => do
      return .referrers (← found.require "repository") (← found.require "subject")
        ((found.value? "artifact-type").getD "")),
    ("gc-mark", grammar [] [("repository", true)] none, fun found => do
      let repository ← found.require "repository"
      if found.operands.isEmpty then throw (.mistake (.missingArgument "marked"))
      return .gcMark repository found.operands),
    ("discover", grammar [] [] (some 0), fun _ => return .discover)]

/-- The request for help on at most one command. -/
def helpOn : List String → Stop
  | [] => .help
  | [name] =>
    if name = "help" ∨ (commands.lookup name).isSome then .help
    else .mistake (.unknownCommand name)
  | name :: other :: _ =>
    if name = "help" ∨ (commands.lookup name).isSome then .mistake (.unknownCommand other)
    else .mistake (.unknownCommand name)

def parse (arguments : List String) : Except Stop Invocation := do
  match ← front.read {} arguments with
  | (_, none) => throw (.mistake .missingCommand)
  | (_, some ("help", rest)) => throw (helpOn rest)
  | (before, some (name, rest)) =>
    match commands.lookup name with
    | none => throw (.mistake (.unknownCommand name))
    | some (grammar, command) =>
      let (behind, _) ← grammar.read {} rest
      let command ← command behind
      let count := behind.count "verbose"
      return {
        verbosity := if count = 0 then before.count "verbose" else count
        configuration := (behind.value? "config").or (before.value? "config")
        command }

end Invocation

end ArtifactRegistry
