import ArtifactRegistry.Digest
import ArtifactRegistry.SortedMap

/-! # Content descriptors

A descriptor refers to a piece of content by digest, size and media type. Manifests refer to their
parts, and listings to manifests, by descriptors.
-/

namespace ArtifactRegistry

/-- The platform that an index entry is meant for. -/
structure Platform where
  architecture : String := ""
  os : String := ""
  osVersion : Option String := none
  osFeatures : List String := []
  variant : Option String := none
  features : List String := []
deriving DecidableEq, Inhabited

/-- A reference to content. The digest is whatever the document said. -/
structure Descriptor where
  mediaType : String := ""
  size : Int64 := 0
  digest : Digest := ⟨""⟩
  urls : List String := []
  annotations : SortedMap String := ∅
  platform : Option Platform := none
  artifactType : Option String := none
deriving DecidableEq, Inhabited

namespace Descriptor

/-- The descriptor of a payload under its SHA-256 digest. -/
def ofPayload (mediaType : String) (payload : Bytes) : Descriptor :=
  { mediaType, digest := Digest.ofBytes payload, size := Int64.ofNat payload.length }

/-- Two descriptors denote the same content when their digests agree, whatever else they say. -/
def sameContent (a b : Descriptor) : Bool := a.digest = b.digest

end Descriptor

end ArtifactRegistry
