import ArtifactRegistry.Json.Record
import ArtifactRegistry.Json.Value
import ArtifactRegistry.Manifest.Error

/-! # Telling the kinds of documents apart

The schemas overlap, so a document of one kind could be read as another with its characteristic part
ignored. A document with manifests is an index and a document with a configuration is an image
manifest, whatever else it says; the probe refuses to read it as any other kind.
-/

namespace ArtifactRegistry.Manifest

open Json

/-- The members that betray the kind of a document. -/
structure Outline where
  config : Option Value := none
  manifests : Option Value := none

def Outline.record : Record Outline where
  name := "UnknownDocument"
  fields := [
    .mayHave "config" (.optional .value) fun config outline => { outline with config },
    .mayHave "manifests" (.optional .value) fun manifests outline => { outline with manifests }]
  empty := {}

/-- The kind that an outline betrays. -/
def Outline.kind? (outline : Outline) (expected : Kind) : Option Kind :=
  if outline.manifests.isSome ∧ expected ≠ .index then some .index
  else if outline.config.isSome ∧ expected ≠ .image then some .image
  else none

/-- Fails when a document cannot be of the expected kind. -/
def probe (expected : Kind) (text : Bytes) : Except ManifestError Unit :=
  match Outline.record.read.run text with
  | .error source => .error (.invalidJson expected source)
  | .ok outline =>
    match outline.kind? expected with
    | some found => .error (.wrongSchema expected found)
    | none => .ok ()

end ArtifactRegistry.Manifest
