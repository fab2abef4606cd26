import ArtifactRegistry.Manifest.Dependency
import ArtifactRegistry.Manifest.Document
import ArtifactRegistry.Storage.LinkPath

/-! # Handlers

A handler stores and reads manifests of one kind. The plain handler of a kind checks the manifest and
its dependencies and stores the payload. The referrers handler does the same for artifact manifests,
and then links a manifest with a subject to that subject. The link path is computed before anything
is stored, and the link is made with a token that nobody holds, so that a caller who gives up after
the payload was stored does not leave it without its link.
-/

namespace ArtifactRegistry

open Manifest

inductive Handler where
  | plain (kind : Manifest.Kind)
  | referrers (repository : String)
deriving DecidableEq, Repr

namespace Handler

variable {σ ε : Type} [Backend σ]

def kind : Handler → Manifest.Kind
  | plain kind => kind
  | referrers _ => .artifact

/-- Reads a stored manifest. -/
def unmarshal (handler : Handler) (digest : Digest) (content : Bytes) :
    Action σ ε (Except ManifestError Manifest) := do
  Action.record .debug "unmarshal manifest"
    [("kind", .word handler.kind.name), ("digest", .word digest.text)]
  return Manifest.parse handler.kind content

/-- Checks a manifest and, unless that is skipped, its dependencies. -/
def check (kind : Manifest.Kind) (lookUp : Lookup σ) (token : Token) (manifest : Manifest)
    (skip : Bool) : Action σ PutError Unit := do
  if manifest.kind ≠ kind then throw (.typeMismatch kind manifest.kind)
  if !manifest.variant.mediaTypeMatches then
    throw (.unrecognizedMediaType kind manifest.variant.declaredMediaType)
  if !skip then verifyDependencies lookUp token manifest.variant

/-- Stores the payload of a manifest. -/
def store (kind : Manifest.Kind) (token : Token) (manifest : Manifest) :
    Action σ PutError Digest := do
  if ← Action.isCancelled token then throw .cancelled
  match manifest.payload with
  | .error source => throw (.manifest source)
  | .ok payload =>
    match ← Action.outcome (Store.putBlob token manifest.kind.mediaType payload.bytes) with
    | .ok descriptor => return descriptor.digest
    | .error error => do
      Action.record .error "error putting payload into blob store"
        [("kind", .word kind.name), ("error", .word error.message)]
      throw (.ofStorage error)

/-- The link path that a manifest with a subject will have. -/
def linkPath? (repository : String) (manifest : Manifest) :
    Except StorageError (Option String) :=
  match manifest.variant.subject? with
  | none => .ok none
  | some subject => (referrersLinkPath repository subject.digest).map some

/-- Checks and stores a manifest and returns its digest. -/
def put (handler : Handler) (lookUp : Lookup σ) (token : Token) (manifest : Manifest)
    (skip : Bool) : Action σ PutError Digest := do
  match handler with
  | plain kind =>
    Action.record .debug "put manifest"
      [("kind", .word kind.name), ("skip_dependency_verification", .boolean skip)]
    check kind lookUp token manifest skip
    store kind token manifest
  | referrers repository =>
    Action.record .debug "put artifact manifest"
      [("repository", .word repository), ("skip_dependency_verification", .boolean skip)]
    check .artifact lookUp token manifest skip
    match linkPath? repository manifest with
    | .error error => throw (.ofStorage error)
    | .ok path? =>
      let digest ← store .artifact token manifest
      if let some path := path? then
        Action.withErrors PutError.ofStorage (Store.addLink .fresh path digest)
        Action.record .debug "recorded referrer link"
          [("repository", .word repository), ("referrer", .word digest.text),
            ("link", .word path)]
      return digest

end Handler

end ArtifactRegistry
