import ArtifactRegistry.Log
import ArtifactRegistry.SortedMap
import ArtifactRegistry.Text.Blank
import ArtifactRegistry.Text.Split
import ArtifactRegistry.Yaml.Section

/-! # Configuration

Where the registry keeps its content, what it logs and how, and the options of its extensions, which
are kept as they are until the extension reads them. Everything has a default, but a section for the
storage must name a root.
-/

namespace ArtifactRegistry

open Yaml

structure LogSettings where
  /-- A filter for log records. -/
  level : String := "info"
  format : Log.Format := .text
deriving DecidableEq

structure Configuration where
  /-- The directory of the store. -/
  root : String := "ocidist-data"
  log : LogSettings := {}
  /-- The options of extensions by name. -/
  extensions : SortedMap Value := ∅

def LogSettings.layout : Section LogSettings where
  name := "LogConfig"
  fields := [
    ⟨"level", fun node settings => return { settings with level := ← node.text "a string" }⟩,
    ⟨"format", fun node settings =>
      return { settings with format := ← node.variant [("text", .text), ("json", .json)] }⟩]
  empty := {}

namespace Configuration

/-- The storage section, which holds the root. -/
def storageLayout : Section String where
  name := "StorageConfig"
  fields := [⟨"root", fun node _ => node.text "path string"⟩]
  required := ["root"]
  empty := ""

/-- Options of extensions; the last of equal names stays. -/
def readExtensions (node : Node) : Except ShapeError (SortedMap Value) := do
  (← node.entries "a map").foldlM (fun extensions (keyNode, node) => do
    let name ← keyNode.text "a string"
    let options ← (Value.ofNode (nestingLimit - 2) node).mapError (ShapeError.within (.key name))
    return extensions.insert name options) ∅

def layout : Section Configuration where
  name := "RegistryConfig"
  fields := [
    ⟨"storage", fun node c => return { c with root := ← storageLayout.read node }⟩,
    ⟨"log", fun node c => return { c with log := ← LogSettings.layout.read node }⟩,
    ⟨"extensions", fun node c => return { c with extensions := ← readExtensions node }⟩]
  empty := {}

/-- The configuration that a text holds; a blank text holds the default. -/
def parse (text : String) : Except Yaml.ReadError Configuration := do
  if text.toList.all Text.isBlank then return {}
  let node ← (Node.parse text).mapError .malformed
  (layout.read node).mapError .shape

/-- The names of a path in order, with a slash in front of an absolute one. Repeated slashes and
dots behind a name do not count. -/
def pathNames (path : String) : List String :=
  match Text.splitAll '/' path with
  | [] | [""] => []
  | first :: rest =>
    (if first = "" then "/" else first) :: rest.filter fun name => name ≠ "" ∧ name ≠ "."

/-- Whether nothing differs from the default. -/
def isDefault (configuration : Configuration) : Bool :=
  pathNames configuration.root = pathNames ({} : Configuration).root
    && configuration.log = {} && configuration.extensions.isEmpty

/-- The options of one extension; they are null when there are none. -/
def options (configuration : Configuration) (extension : String) : Value :=
  (configuration.extensions.get? extension).getD .null

end Configuration

end ArtifactRegistry
