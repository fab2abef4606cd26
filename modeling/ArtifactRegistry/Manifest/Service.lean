import ArtifactRegistry.Manifest.Handler
import ArtifactRegistry.Manifest.SchemaRegistry

/-! # The manifests of a repository

A service stores manifests through the handler of their kind. It reads a stored manifest by the media
type that it was stored under: through the handler of that kind if there is one, and by the schema
registry otherwise. Content that was not stored under a manifest media type is no manifest.
-/

namespace ArtifactRegistry

open Manifest

structure ManifestService where
  repository : String
  registry : SchemaRegistry
  handlers : Manifest.Kind → Option Handler

namespace ManifestService

variable {σ ε : Type} [Backend σ]

/-- A service without handlers. -/
def bare (repository : String) (registry : SchemaRegistry) : ManifestService :=
  ⟨repository, registry, fun _ => none⟩

/-- Puts a handler in charge of its kind. -/
def withHandler (service : ManifestService) (handler : Handler) : ManifestService :=
  { service with
    handlers := fun kind => if kind = handler.kind then some handler else service.handlers kind }

/-- The handlers of image manifests and indexes. -/
def defaultHandlers : List Handler := [.plain .image, .plain .index]

/-- A service with handlers, later ones in place of earlier ones for the same kind. -/
def withHandlers (repository : String) (registry : SchemaRegistry) (handlers : List Handler) :
    ManifestService :=
  handlers.foldl withHandler (bare repository registry)

/-- Reports that handlers were put in charge. -/
def recordHandlers (repository : String) (handlers : List Handler) : Action σ ε Unit :=
  handlers.forM fun handler =>
    Action.record .debug "registered manifest handler"
      [("repository", .word repository), ("kind", .word handler.kind.name)]

/-- The kinds with a handler. -/
def handledKinds (service : ManifestService) : List Manifest.Kind :=
  Manifest.Kind.all.filter fun kind => (service.handlers kind).isSome

/-- Whether a digest is that of a stored manifest. -/
def exists? (token : Token) (digest : Digest) : Action σ StorageError Bool := do
  match ← Action.outcome (Store.statBlob token digest) with
  | .ok descriptor => return isManifestMediaType descriptor.mediaType
  | .error (.blobUnknown _) => return false
  | .error error => throw error

/-- Reads content that was stored under a manifest media type. -/
def decode (service : ManifestService) (mediaType : String) (digest : Digest) (content : Bytes) :
    Action σ ε (Except ManifestError Manifest) := do
  match (Kind.ofMediaType? mediaType).bind service.handlers with
  | some handler => handler.unmarshal digest content
  | none => return (service.registry.unmarshal mediaType content).map Prod.fst

/-- The manifest that is stored under a digest. -/
def get (service : ManifestService) (token : Token) (digest : Digest) :
    Action σ StorageError Manifest := do
  let descriptor ←
    match ← Action.outcome (Store.statBlob token digest) with
    | .ok descriptor =>
      if isManifestMediaType descriptor.mediaType then pure descriptor
      else throw (.manifestUnknown digest)
    | .error (.blobUnknown _) => throw (.manifestUnknown digest)
    | .error error => throw error
  let content ← Store.getBlob token digest
  Action.ensureLive token
  match ← service.decode descriptor.mediaType digest content with
  | .ok manifest => return manifest
  | .error source => throw (.unreadable digest source)

/-- Stores a manifest and returns its digest. -/
def put (service : ManifestService) (token : Token) (manifest : Manifest) (skip : Bool) :
    Action σ PutError Digest := do
  match service.handlers manifest.kind with
  | none => throw (.noHandler manifest.kind)
  | some handler =>
    let digest ← handler.put exists? token manifest skip
    Action.record .info "stored manifest"
      [("repository", .word service.repository), ("digest", .word digest.text),
        ("kind", .word manifest.kind.name)]
    return digest

/-- Reads a document that was received with a content type and stores it as it is. -/
def putBytes (service : ManifestService) (token : Token) (contentType : String) (text : Bytes)
    (skip : Bool) : Action σ PutError Digest := do
  match service.registry.unmarshal contentType text with
  | .error source => throw (.manifest source)
  | .ok (manifest, _) => service.put token manifest skip

end ManifestService

end ArtifactRegistry
