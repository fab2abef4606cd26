import ArtifactRegistry.Registry
import ArtifactRegistry.Storage.FileStore

/-! # Commands

What a user can ask of a registry in files. A command reads its input before it looks at the store,
prints its result and ends with an exit code: zero, or two when a manifest was refused because of its
references. Everything else that goes wrong is a failure.
-/

namespace ArtifactRegistry

inductive Command where
  /-- Stores a file as a blob. -/
  | blobPut (mediaType file : String)
  /-- Stores a file as a manifest. -/
  | put (repository contentType : String) (skip : Bool) (file : String)
  /-- Lists the referrers of a subject. -/
  | referrers (repository subject artifactType : String)
  /-- Extends marks by referrers. -/
  | gcMark (repository : String) (marked : List String)
  /-- Lists the extensions. -/
  | discover
deriving DecidableEq, Repr

namespace Command

/-- The exit code of a command that did what it was asked for. -/
def success : Nat := 0

/-- The exit code of a command that failed. -/
def failed : Nat := 1

/-- The exit code for a manifest with missing references, and for a wrong command line. -/
def refused : Nat := 2

variable {α : Type}

/-- Reads a file of the working directory. -/
def readFile (activity file : String) : Action FileStore Failure Bytes := do
  match (← get).store.tree.readNamed file with
  | .ok contents => return contents
  | .error error => throw (.ofMedium s!"{activity}: {file}" error)

/-- Prints a value in the layout of listings. -/
def printJson (value : Json.Value) : Action FileStore Failure Unit :=
  Action.print ((Bytes.toText? value.listing).getD "")

def parseDigest (activity text : String) : Action FileStore Failure Digest :=
  match Digest.parse text with
  | .ok digest => pure digest
  | .error error => throw (.ofDigest activity error)

def runBlobPut (mediaType file : String) : Action FileStore Failure Nat := do
  let content ← readFile "failed to read blob" file
  let descriptor ← Action.withErrors (Failure.ofStorage "failed to store blob")
    (Store.putBlob .fresh mediaType content)
  printJson descriptor.toJson
  return success

def runPut (registry : Registry) (repository contentType : String) (skip : Bool) (file : String) :
    Action FileStore Failure Nat := do
  let content ← readFile "failed to read manifest" file
  let repository ← registry.repository repository
  match repository.service.registry.unmarshal contentType content with
  | .error error => throw (.ofManifest s!"failed to parse {file}" error)
  | .ok (manifest, descriptor) =>
    Action.record .debug "parsed manifest"
      [("digest", .word descriptor.digest.text), ("kind", .word manifest.kind.name)]
    match ← Action.outcome (repository.service.put .fresh manifest skip) with
    | .ok digest =>
      Action.print digest.text
      return success
    | .error (.verification failures) =>
      failures.forM fun failure => Action.print failure.message
      Action.record .error "manifest references are missing"
        [("count", .number failures.length)]
      return refused
    | .error error => throw (.ofPut "failed to store manifest" error)

def runReferrers (registry : Registry) (repository subject artifactType : String) :
    Action FileStore Failure Nat := do
  let subject ← parseDigest "invalid subject digest" subject
  let repository ← registry.repository repository
  if !repository.listsReferrers then throw ⟨["the referrers extension is not enabled"]⟩
  let references ← Action.withErrors (Failure.ofReferrers "failed to list referrers")
    (Referrers.enumerate repository.service .fresh subject artifactType)
  printJson (.object [("references", .list (references.map Descriptor.toJson))])
  return success

def runGcMark (registry : Registry) (repository : String) (marked : List String) :
    Action FileStore Failure Nat := do
  let _ ← registry.repository repository
  let marks ← marked.mapM fun text =>
    parseDigest s!"invalid digest {Text.quote text}" text
  let marks := MarkSet.ofList marks
  let extended ←
    if registry.referrers.enabled then
      Action.withErrors (Failure.ofReferrers "failed to extend mark set")
        (Referrers.extendMarks marks repository .fresh)
    else pure marks
  extended.toList.forM fun digest => Action.print digest.text
  return success

def runDiscover (registry : Registry) : Action FileStore Failure Nat := do
  if !registry.discover.enabled then throw ⟨["the discover extension is not enabled"]⟩
  printJson (DiscoverExtension.listing registry.extensions)
  return success

/-- Runs a command and returns its exit code. -/
def run (registry : Registry) : Command → Action FileStore Failure Nat
  | blobPut mediaType file => runBlobPut mediaType file
  | put repository contentType skip file => runPut registry repository contentType skip file
  | referrers repository subject artifactType =>
    runReferrers registry repository subject artifactType
  | gcMark repository marked => runGcMark registry repository marked
  | discover => runDiscover registry

end Command

end ArtifactRegistry
