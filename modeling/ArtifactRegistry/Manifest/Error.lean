import ArtifactRegistry.Json.Error
import ArtifactRegistry.Manifest.Kind
import ArtifactRegistry.Payload

/-! # Why a manifest cannot be read or written -/

namespace ArtifactRegistry

inductive ManifestError where
  | wrongSchema (expected found : Manifest.Kind)
  | mediaTypeMismatch (kind : Manifest.Kind) (found : String)
  | unknownSchema (mediaType : String)
  | duplicateSchema (mediaType : String)
  | noPayload (kind : Manifest.Kind)
  | invalidJson (kind : Manifest.Kind) (source : ReadError)
  | payload (source : PayloadError)

def ManifestError.message : ManifestError → String
  | wrongSchema expected found => s!"expected {expected.name} but found {found.name}"
  | mediaTypeMismatch kind found =>
    s!"mediaType in {kind.name} should be {Text.quote kind.mediaType} not {Text.quote found}"
  | unknownSchema mediaType => s!"unsupported manifest media type {Text.quote mediaType}"
  | duplicateSchema mediaType =>
    s!"manifest media type {Text.quote mediaType} is already registered"
  | noPayload kind => s!"JSON representation not initialized for {kind.name}"
  | invalidJson kind source => s!"invalid {kind.name} JSON: {source.message}"
  | payload source => source.message

end ArtifactRegistry
