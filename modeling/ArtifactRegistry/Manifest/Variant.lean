import ArtifactRegistry.Descriptor.Json
import ArtifactRegistry.Manifest.Kind

/-! # What manifests say

An image manifest has a configuration and layers, an index has manifests, and an artifact manifest
has blobs and may have a subject: the manifest that it is about. The references of a manifest are
the descriptors of its parts in document order, an artifact's subject last.
-/

namespace ArtifactRegistry.Manifest

open Json

structure Image where
  schemaVersion : UInt32 := 0
  mediaType : String := ""
  config : Descriptor := {}
  layers : List Descriptor := []
  annotations : SortedMap String := ∅
deriving DecidableEq, Inhabited

structure Index where
  schemaVersion : UInt32 := 0
  mediaType : String := ""
  manifests : List Descriptor := []
  annotations : SortedMap String := ∅
deriving DecidableEq, Inhabited

structure Artifact where
  mediaType : String := ""
  artifactType : Option String := none
  blobs : List Descriptor := []
  subject : Option Descriptor := none
  annotations : SortedMap String := ∅
deriving DecidableEq, Inhabited

/-- The contents of a manifest of any kind. -/
inductive Variant where
  | image (contents : Image)
  | index (contents : Index)
  | artifact (contents : Artifact)
deriving DecidableEq, Inhabited

namespace Image

def toJson (m : Image) : Value :=
  .object <|
    [("schemaVersion", .ofInt m.schemaVersion.toNat)]
    ++ Value.member "mediaType" (m.mediaType ≠ "") (.string m.mediaType)
    ++ [("config", m.config.toJson), ("layers", .list (m.layers.map Descriptor.toJson))]
    ++ Value.member "annotations" (!m.annotations.isEmpty) (.ofMap m.annotations)

end Image

namespace Index

def toJson (m : Index) : Value :=
  .object <|
    [("schemaVersion", .ofInt m.schemaVersion.toNat), ("mediaType", .string m.mediaType),
      ("manifests", .list (m.manifests.map Descriptor.toJson))]
    ++ Value.member "annotations" (!m.annotations.isEmpty) (.ofMap m.annotations)

end Index

namespace Artifact

def toJson (m : Artifact) : Value :=
  .object <|
    [("mediaType", .string m.mediaType)]
    ++ Value.textMember? "artifactType" m.artifactType
    ++ Value.member "blobs" (!m.blobs.isEmpty) (.list (m.blobs.map Descriptor.toJson))
    ++ (m.subject.toList.map fun subject => ("subject", subject.toJson))
    ++ Value.member "annotations" (!m.annotations.isEmpty) (.ofMap m.annotations)

end Artifact

/-- Reads a schema version, an unsigned number of 32 bits. -/
def schemaVersionReader : Reader UInt32 := fun depth node =>
  (Reader.integer 0 0xffffffff "u32" depth node).map fun n => UInt32.ofNat n.toNat

def Image.record : Record Image where
  name := "ImageManifest"
  fields := [
    .mayHave "schemaVersion" schemaVersionReader fun schemaVersion m => { m with schemaVersion },
    .mayHave "mediaType" .text fun mediaType m => { m with mediaType },
    .mustHave "config" Descriptor.record.read fun config m => { m with config },
    .mayHave "layers" (.list Descriptor.record.read) fun layers m => { m with layers },
    .mayHave "annotations" (.map .text) fun annotations m => { m with annotations }]
  empty := {}

def Index.record : Record Index where
  name := "ImageIndex"
  fields := [
    .mayHave "schemaVersion" schemaVersionReader fun schemaVersion m => { m with schemaVersion },
    .mayHave "mediaType" .text fun mediaType m => { m with mediaType },
    .mayHave "manifests" (.list Descriptor.record.read) fun manifests m => { m with manifests },
    .mayHave "annotations" (.map .text) fun annotations m => { m with annotations }]
  empty := {}

def Artifact.record : Record Artifact where
  name := "ArtifactManifest"
  fields := [
    .mayHave "mediaType" .text fun mediaType m => { m with mediaType },
    .mayHave "artifactType" (.optional .text) fun artifactType m => { m with artifactType },
    .mayHave "blobs" (.list Descriptor.record.read) fun blobs m => { m with blobs },
    .mayHave "subject" (.optional Descriptor.record.read) fun subject m => { m with subject },
    .mayHave "annotations" (.map .text) fun annotations m => { m with annotations }]
  empty := {}

namespace Variant

def kind : Variant → Kind
  | image _ => .image
  | index _ => .index
  | artifact _ => .artifact

/-- The media type that the document states for itself. -/
def declaredMediaType : Variant → String
  | image m => m.mediaType
  | index m => m.mediaType
  | artifact m => m.mediaType

/-- Whether the document's own media type fits its kind. Only an image manifest may omit it. -/
def mediaTypeMatches (v : Variant) : Bool :=
  v.declaredMediaType = v.kind.mediaType || (v.kind = .image && v.declaredMediaType = "")

/-- The manifest that an artifact manifest is about. -/
def subject? : Variant → Option Descriptor
  | artifact m => m.subject
  | _ => none

/-- The configuration that an image manifest runs with. -/
def target? : Variant → Option Descriptor
  | image m => some m.config
  | _ => none

/-- The descriptors of all parts in document order. -/
def references : Variant → List Descriptor
  | image m => m.config :: m.layers
  | index m => m.manifests
  | artifact m => m.blobs ++ m.subject.toList

def annotations : Variant → SortedMap String
  | image m => m.annotations
  | index m => m.annotations
  | artifact m => m.annotations

def artifact? : Variant → Option Artifact
  | artifact m => some m
  | _ => none

def toJson : Variant → Value
  | image m => m.toJson
  | index m => m.toJson
  | artifact m => m.toJson

/-- Reads the contents of a manifest of a given kind. -/
def reader : Kind → Reader Variant
  | .image => fun depth node => (Image.record.read depth node).map image
  | .index => fun depth node => (Index.record.read depth node).map index
  | .artifact => fun depth node => (Artifact.record.read depth node).map artifact

end Variant

end ArtifactRegistry.Manifest
