/-! # Kinds of manifests

Three kinds of manifests can be read and written, each under a media type of its own. A few more
media types are known to denote manifests, so that content stored under them is never taken for an
ordinary blob.
-/

namespace ArtifactRegistry

/-- The manifests that can be read and written. -/
inductive Manifest.Kind where
  | image
  | index
  | artifact
deriving DecidableEq, Repr, Inhabited

namespace Manifest.Kind

def all : List Kind := [image, index, artifact]

def mediaType : Kind → String
  | image => "application/vnd.oci.image.manifest.v1+json"
  | index => "application/vnd.oci.image.index.v1+json"
  | artifact => "application/vnd.oci.artifact.manifest.v1+json"

def ofMediaType? (mediaType : String) : Option Kind :=
  all.find? fun kind => kind.mediaType = mediaType

/-- How messages call a kind. -/
def name : Kind → String
  | image => "image manifest"
  | index => "index"
  | artifact => "artifact manifest"

@[simp] theorem ofMediaType?_mediaType (kind : Kind) : ofMediaType? kind.mediaType = some kind := by
  cases kind <;> decide

end Manifest.Kind

/-- Manifest media types that cannot be read. -/
def foreignManifestMediaTypes : List String := [
  "application/vnd.docker.distribution.manifest.v2+json",
  "application/vnd.docker.distribution.manifest.list.v2+json",
  "application/vnd.docker.distribution.manifest.v1+json",
  "application/vnd.docker.distribution.manifest.v1+prettyjws"]

/-- Whether content of a media type is a manifest. -/
def isManifestMediaType (mediaType : String) : Bool :=
  mediaType ∈ Manifest.Kind.all.map Manifest.Kind.mediaType ++ foreignManifestMediaTypes

end ArtifactRegistry
