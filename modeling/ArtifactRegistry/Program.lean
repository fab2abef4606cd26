import ArtifactRegistry.Command.Line
import ArtifactRegistry.Log.Filter

/-! # The program

One run of the program: it reads the command line and the configuration, opens the registry in files
and runs the command. A run is a function of its arguments, of the setting of the log filter in its
environment and of the files that it finds, and ends with an exit code, the files it leaves and what
it writes.
-/

namespace ArtifactRegistry

namespace Configuration

/-- Reads a configuration; says why it is not one. -/
def ofText (text : String) : Except Failure Configuration :=
  (parse text).mapError fun error => ⟨["invalid registry configuration", error.message]⟩

/-- Reads the configuration that a file holds. -/
def load (tree : FileTree) (file : String) : Except Failure Configuration := do
  let reading := s!"failed to read config: {file}"
  let contents ← (tree.readNamed file).mapError (Failure.ofMedium reading)
  match Bytes.toText? contents with
  | none => throw (.ofMedium reading .invalidText)
  | some text =>
    (ofText text).mapError fun failure => ⟨s!"in {file}" :: failure.messages⟩

end Configuration

namespace Program

/-- What the program says about its version. -/
def version : String := "ocidist 0.1.0"

def help : String :=
  "Usage: ocidist [OPTIONS] <COMMAND>\n\nCommands:\n"
    ++ String.join (Invocation.commands.map fun command => s!"  {command.1}\n")
    ++ "  help\n\nOptions:\n  -v, --verbose\n      --config <CONFIG>\n  -h, --help\n  -V, --version"

/-- How a run ends. -/
structure Outcome where
  code : Nat
  /-- The files that are there afterwards. -/
  tree : FileTree
  /-- How log records are written. -/
  format : Log.Format := .text
  /-- What is written, in order. -/
  output : List Log.Output := []
  /-- What is wrong with the command line. -/
  mistake : Option UsageError := none

/-- Runs an operation on the store that a configuration names; failures are logged. -/
def logged (action : Action FileStore Failure Nat) : Action FileStore Empty Nat := do
  match ← Action.outcome action with
  | .ok code => return code
  | .error failure =>
    Action.record .error failure.message
    return Command.failed

/-- Runs an operation with the settings of a configuration. -/
def perform (configuration : Configuration) (filter : Log.Filter) (tree : FileTree)
    (action : Action FileStore Failure Nat) : Outcome :=
  let (result, world) := (logged action).runIn { store := ⟨configuration.root, tree⟩ }
  { code := match result with
      | .ok code => code
    tree := world.store.tree
    format := configuration.log.format
    output := world.output.reverse.filter filter.passes }

/-- Runs the command of an invocation. -/
def runInvocation (filterSetting : Option String) (tree : FileTree) (invocation : Invocation) :
    Outcome :=
  let filter := Log.Filter.choose filterSetting invocation.verbosity
  match invocation.configuration.mapM (Configuration.load tree) with
  | .error failure =>
    perform {} (filter ({} : LogSettings).level) tree (throw failure)
  | .ok loaded =>
    let configuration := loaded.getD {}
    perform configuration (filter configuration.log.level) tree do
      Action.record .debug "ocidist starting" [("root", .word configuration.root)]
      let registry ← Registry.ofConfiguration configuration
      invocation.command.run registry

/-- Runs the program. -/
def run (arguments : List String) (filterSetting : Option String) (tree : FileTree) : Outcome :=
  match Invocation.parse arguments with
  | .ok invocation => runInvocation filterSetting tree invocation
  | .error .help => { code := Command.success, tree, output := [.printed (help ++ "\n")] }
  | .error .version => { code := Command.success, tree, output := [.printed (version ++ "\n")] }
  | .error (.mistake mistake) => { code := Command.refused, tree, mistake := some mistake }

end Program

end ArtifactRegistry
