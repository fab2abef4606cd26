import ArtifactRegistry.Referrers.Error
import ArtifactRegistry.Manifest.Dependency

/-! # Failures of commands

A failed command says what it was doing and why that failed, the nearest reason first. An error that
quotes its source in its own words is still followed by that source.
-/

namespace ArtifactRegistry

/-- The sources of an error, the nearest first. -/
def ManifestError.causes : ManifestError → List String
  | invalidJson _ source => [source.message]
  | _ => []

def StorageError.causes : StorageError → List String
  | invalidDigest source => [source.message]
  | unreadable _ source => source.message :: source.causes
  | medium source => [source.message]
  | _ => []

def PutError.causes : PutError → List String
  | manifest source => source.causes
  | storage source => source.causes
  | _ => []

def ReferrersError.causes : ReferrersError → List String
  | invalidSubject source => [source.message]
  | options source => [source.message]
  | storage source => source.causes
  | _ => []

/-- What failed, and every reason behind it. -/
structure Failure where
  messages : List String
deriving DecidableEq, Repr

namespace Failure

def message (failure : Failure) : String := String.intercalate ": " failure.messages

def ofStorage (activity : String) (error : StorageError) : Failure :=
  ⟨activity :: error.message :: error.causes⟩

def ofManifest (activity : String) (error : ManifestError) : Failure :=
  ⟨activity :: error.message :: error.causes⟩

def ofPut (activity : String) (error : PutError) : Failure :=
  ⟨activity :: error.message :: error.causes⟩

def ofReferrers (activity : String) (error : ReferrersError) : Failure :=
  ⟨activity :: error.message :: error.causes⟩

def ofDigest (activity : String) (error : DigestError) : Failure := ⟨[activity, error.message]⟩

def ofMedium (activity : String) (error : MediumError) : Failure := ⟨[activity, error.message]⟩

end Failure

end ArtifactRegistry
