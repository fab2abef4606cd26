import ArtifactRegistry.Manifest.Variant
import ArtifactRegistry.Storage.Backend

/-! # Dependencies of a manifest

The references of a manifest must be stored before it is. The subject of an artifact manifest, and
every reference with a manifest media type, must be there as a manifest; all others as blobs. The
check looks at every reference and reports all failures in document order.
-/

namespace ArtifactRegistry

namespace Manifest

/-- What a reference must be stored as. -/
inductive DependencyKind where
  | blob
  | manifest
deriving DecidableEq, Repr

def DependencyKind.name : DependencyKind → String
  | blob => "blob"
  | manifest => "manifest"

structure Dependency where
  descriptor : Descriptor
  kind : DependencyKind
deriving DecidableEq

/-- A reference that is not a subject. -/
def Dependency.ofReference (descriptor : Descriptor) : Dependency :=
  ⟨descriptor, if isManifestMediaType descriptor.mediaType then .manifest else .blob⟩

/-- The references of a manifest with what each must be. -/
def Variant.dependencies : Variant → List Dependency
  | .artifact m =>
    m.blobs.map .ofReference ++ m.subject.toList.map fun subject => ⟨subject, .manifest⟩
  | variant => variant.references.map .ofReference

end Manifest

/-- Why a reference is not satisfied. -/
inductive VerificationError where
  | invalidDigest (digest : Digest) (reason : DigestError)
  | blobUnknown (digest : Digest)
  | manifestUnknown (digest : Digest)
  | lookupFailed (digest : Digest) (reason : String)
deriving DecidableEq, Repr

namespace VerificationError

def digest : VerificationError → Digest
  | invalidDigest digest _ | blobUnknown digest | manifestUnknown digest
  | lookupFailed digest _ => digest

def message : VerificationError → String
  | invalidDigest digest reason =>
    s!"invalid digest Digest({Text.quote digest.text}): {reason.message}"
  | blobUnknown digest => s!"unknown blob {digest.text}"
  | manifestUnknown digest => s!"unknown manifest {digest.text}"
  | lookupFailed digest reason => s!"could not check {digest.text}: {reason}"

/-- The summary of a list of failures. -/
def report (failures : List VerificationError) : String :=
  s!"{failures.length} reference(s) failed verification"
    ++ (if failures.isEmpty then "" else ": ")
    ++ String.intercalate "; " (failures.map message)

end VerificationError

/-- Why a manifest is not stored. -/
inductive PutError where
  | noHandler (kind : Manifest.Kind)
  | typeMismatch (expected found : Manifest.Kind)
  | unrecognizedMediaType (kind : Manifest.Kind) (mediaType : String)
  | verification (failures : List VerificationError)
  | manifest (source : ManifestError)
  | storage (source : StorageError)
  | cancelled

namespace PutError

/-- A store that was cancelled means that the put was. -/
def ofStorage : StorageError → PutError
  | .cancelled => .cancelled
  | source => .storage source

def message : PutError → String
  | noHandler kind => s!"no manifest handler registered for {kind.name}"
  | typeMismatch expected found => s!"{found.name} put to the {expected.name} handler"
  | unrecognizedMediaType kind mediaType =>
    s!"unrecognized manifest media type {Text.quote mediaType} for {kind.name}"
  | verification failures => s!"manifest verification failed: {VerificationError.report failures}"
  | manifest source => source.message
  | storage source => source.message
  | cancelled => "operation cancelled"

end PutError

namespace Manifest

variable {σ : Type} [Backend σ]

/-- Looks manifests up by digest. -/
abbrev Lookup (σ : Type) := Token → Digest → Action σ StorageError Bool

/-- The failure of a lookup that ended with an error, unless it was cancelled. -/
def lookupFailure (digest : Digest) : StorageError → Action σ PutError (Option VerificationError)
  | .cancelled => throw .cancelled
  | error => return some (.lookupFailed digest error.message)

/-- The failure of a dependency, if it is not satisfied. -/
def Dependency.failure? (lookUp : Lookup σ) (token : Token) (dependency : Dependency) :
    Action σ PutError (Option VerificationError) := do
  let digest := dependency.descriptor.digest
  match digest.validate with
  | .error reason => return some (.invalidDigest digest reason)
  | .ok _ =>
    match dependency.kind with
    | .manifest =>
      match ← Action.outcome (lookUp token digest) with
      | .ok true => return none
      | .ok false => return some (.manifestUnknown digest)
      | .error (.manifestUnknown _) => return some (.manifestUnknown digest)
      | .error error => lookupFailure digest error
    | .blob =>
      match ← Action.outcome (Store.statBlob token digest) with
      | .ok _ => return none
      | .error (.blobUnknown _) => return some (.blobUnknown digest)
      | .error error => lookupFailure digest error

/-- The failures of several dependencies, in order. -/
def failures (lookUp : Lookup σ) (token : Token) :
    List Dependency → Action σ PutError (List VerificationError)
  | [] => return []
  | dependency :: rest => do
    if ← Action.isCancelled token then throw .cancelled
    let failure ← dependency.failure? lookUp token
    let others ← failures lookUp token rest
    return failure.toList ++ others

/-- Fails unless every dependency of a manifest is satisfied. -/
def verifyDependencies (lookUp : Lookup σ) (token : Token) (variant : Variant) :
    Action σ PutError Unit := do
  let failures ← failures lookUp token variant.dependencies
  if !failures.isEmpty then
    Action.record .debug "dependency verification failed"
      [("kind", .word variant.kind.name), ("failures", .number failures.length)]
    throw (.verification failures)

end Manifest

end ArtifactRegistry
