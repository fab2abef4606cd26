import ArtifactRegistry.Manifest.Probe
import ArtifactRegistry.Manifest.Variant

/-! # Manifests and their bytes

A manifest is its contents together with the bytes that identify it: those it was read from, or
those of the canonical layout. A draft has contents only; sealing gives it bytes.
-/

namespace ArtifactRegistry

structure Manifest where
  variant : Manifest.Variant
  payload? : Option Payload
deriving DecidableEq

namespace Manifest

def draft (variant : Variant) : Manifest := ⟨variant, none⟩

def kind (m : Manifest) : Kind := m.variant.kind

/-- Gives a draft the bytes of the canonical layout; other manifests keep theirs. -/
def sealed (m : Manifest) : Except ManifestError Manifest :=
  match m.payload? with
  | some _ => .ok m
  | none =>
    match Payload.ofJson m.variant.toJson with
    | .ok payload => .ok ⟨m.variant, some payload⟩
    | .error source => .error (.payload source)

/-- A sealed manifest with given contents. -/
def ofVariant (variant : Variant) : Except ManifestError Manifest := (draft variant).sealed

/-- Reads a manifest of a given kind and keeps the bytes as they are. -/
def parse (kind : Kind) (text : Bytes) : Except ManifestError Manifest := do
  probe kind text
  let payload ← (Payload.verbatim text).mapError .payload
  let variant ← ((Variant.reader kind).run text).mapError (.invalidJson kind)
  if variant.mediaTypeMatches then return ⟨variant, some payload⟩
  else throw (.mediaTypeMismatch kind variant.declaredMediaType)

/-- The identifying bytes. -/
def payload (m : Manifest) : Except ManifestError Payload :=
  match m.payload? with
  | some payload => .ok payload
  | none => .error (.noPayload m.kind)

def digest (m : Manifest) : Except ManifestError Digest := m.payload.map Payload.digest

def descriptor (m : Manifest) : Except ManifestError Descriptor :=
  m.payload.map fun payload => .ofPayload m.kind.mediaType payload.bytes

end Manifest

end ArtifactRegistry
