import ArtifactRegistry.Storage.Error
import ArtifactRegistry.Timestamp
import ArtifactRegistry.Yaml.Value

/-! # Why referrers cannot be listed -/

namespace ArtifactRegistry

inductive ReferrersError where
  | annotationParse (digest : Digest) (key : String) (reason : TimestampError)
  | invalidSubject (source : DigestError)
  | options (source : Yaml.ShapeError)
  | storage (source : StorageError)
  | cancelled

namespace ReferrersError

/-- A store that was cancelled means that the operation was. -/
def ofStorage : StorageError → ReferrersError
  | .cancelled => .cancelled
  | source => .storage source

def message : ReferrersError → String
  | annotationParse digest key reason =>
    s!"referrer {digest.text} has malformed {key} annotation {Text.quote reason.value}: "
      ++ reason.message
  | invalidSubject source => s!"invalid subject digest: {source.message}"
  | options source => s!"invalid extension options: {source.message}"
  | storage source => source.message
  | cancelled => "operation cancelled"

end ReferrersError

end ArtifactRegistry
