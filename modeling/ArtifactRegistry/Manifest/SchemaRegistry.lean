import ArtifactRegistry.Manifest.Document

/-! # Readers by media type

A schema registry says which reader is in charge of a media type. A media type is registered at most
once: later registrations fail and change nothing. A document without a content type of its own is
read by the media type that it declares, and as an image manifest when it declares none.
-/

namespace ArtifactRegistry

/-- Reads a document into a manifest and the descriptor of its bytes. -/
abbrev Unmarshal := Bytes → Except ManifestError (Manifest × Descriptor)

/-- The reader of a kind of manifest. -/
def Manifest.Kind.unmarshal (kind : Manifest.Kind) : Unmarshal := fun text => do
  let manifest ← Manifest.parse kind text
  let descriptor ← manifest.descriptor
  return (manifest, descriptor)

structure SchemaRegistry where
  readers : SortedMap Unmarshal

namespace SchemaRegistry

open Json Manifest

def empty : SchemaRegistry := ⟨∅⟩

/-- The registry of the three kinds under their own media types. -/
def withDefaults : SchemaRegistry :=
  Kind.all.foldl (fun registry kind => ⟨registry.readers.insert kind.mediaType kind.unmarshal⟩)
    empty

def register (registry : SchemaRegistry) (mediaType : String) (reader : Unmarshal) :
    Except ManifestError SchemaRegistry :=
  if registry.readers.contains mediaType then .error (.duplicateSchema mediaType)
  else .ok ⟨registry.readers.insert mediaType reader⟩

def lookup (registry : SchemaRegistry) (mediaType : String) : Except ManifestError Unmarshal :=
  match registry.readers.get? mediaType with
  | some reader => .ok reader
  | none => .error (.unknownSchema mediaType)

def isRegistered (registry : SchemaRegistry) (mediaType : String) : Bool :=
  registry.readers.contains mediaType

/-- The registered media types in ascending order. -/
def mediaTypes (registry : SchemaRegistry) : List String := registry.readers.keys

/-- A one-line summary for diagnostics. -/
def describe (registry : SchemaRegistry) : String :=
  s!"SchemaRegistry \x7b media_types: {Text.quoteList registry.mediaTypes} \x7d"

/-- The part of a document that states its media type. -/
structure Declaration where
  mediaType : String := ""

def Declaration.record : Record Declaration where
  name := "Versioned"
  fields := [.mayHave "mediaType" .text fun mediaType _ => { mediaType }]
  empty := {}

/-- The media type that a document declares. -/
def declaredMediaType (text : Bytes) : Except ManifestError String :=
  match Declaration.record.read.run text with
  | .error source => .error (.invalidJson .image source)
  | .ok declaration =>
    .ok (if declaration.mediaType = "" then Kind.image.mediaType else declaration.mediaType)

/-- Content types that leave it to the document to state its media type. -/
def isGeneric (contentType : String) : Bool :=
  contentType = "" || contentType = "application/json"

/-- The media type by which a document is read. -/
def route (contentType : String) (text : Bytes) : Except ManifestError String :=
  if isGeneric contentType then declaredMediaType text else .ok contentType

/-- Reads a document that was received with a content type. -/
def unmarshal (registry : SchemaRegistry) (contentType : String) : Unmarshal := fun text => do
  let mediaType ← route contentType text
  let reader ← registry.lookup mediaType
  reader text

end SchemaRegistry

end ArtifactRegistry
