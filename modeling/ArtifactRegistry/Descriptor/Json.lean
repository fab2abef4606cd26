import ArtifactRegistry.Descriptor
import ArtifactRegistry.Json.Printer
import ArtifactRegistry.Json.Record

/-! # Descriptors as JSON

The order of the fields is part of the format, because documents are identified by their bytes.
Empty fields are left out; of a platform, the architecture and the operating system are always
there.
-/

namespace ArtifactRegistry

open Json

/-- A member that is left out unless `present`. -/
def Json.Value.member (key : String) (present : Bool) (value : Value) : List (String × Value) :=
  if present then [(key, value)] else []

/-- A member that is left out when there is no text. -/
def Json.Value.textMember? (key : String) (text : Option String) : List (String × Value) :=
  text.toList.map fun text => (key, .string text)

namespace Platform

def toJson (p : Platform) : Value :=
  .object <|
    [("architecture", .string p.architecture), ("os", .string p.os)]
    ++ Value.textMember? "os.version" p.osVersion
    ++ Value.member "os.features" (!p.osFeatures.isEmpty) (.ofTexts p.osFeatures)
    ++ Value.textMember? "variant" p.variant
    ++ Value.member "features" (!p.features.isEmpty) (.ofTexts p.features)

def record : Record Platform where
  name := "Platform"
  fields := [
    .mustHave "architecture" .text fun text p => { p with architecture := text },
    .mustHave "os" .text fun text p => { p with os := text },
    .mayHave "os.version" (.optional .text) fun text p => { p with osVersion := text },
    .mayHave "os.features" (.list .text) fun texts p => { p with osFeatures := texts },
    .mayHave "variant" (.optional .text) fun text p => { p with variant := text },
    .mayHave "features" (.list .text) fun texts p => { p with features := texts }]
  empty := {}

end Platform

/-- Reads a size, a signed number of 64 bits. -/
def Json.Reader.size : Reader Int64 := fun depth node =>
  (integer (-0x8000000000000000) 0x7fffffffffffffff "i64" depth node).map Int64.ofInt

namespace Descriptor

def toJson (d : Descriptor) : Value :=
  .object <|
    Value.member "mediaType" (d.mediaType ≠ "") (.string d.mediaType)
    ++ Value.member "size" (d.size ≠ 0) (.ofInt d.size.toInt)
    ++ Value.member "digest" (!d.digest.isEmpty) (.string d.digest.text)
    ++ Value.member "urls" (!d.urls.isEmpty) (.ofTexts d.urls)
    ++ Value.member "annotations" (!d.annotations.isEmpty) (.ofMap d.annotations)
    ++ (d.platform.toList.map fun platform => ("platform", platform.toJson))
    ++ Value.textMember? "artifactType" d.artifactType

def record : Record Descriptor where
  name := "Descriptor"
  fields := [
    .mayHave "mediaType" .text fun text d => { d with mediaType := text },
    .mayHave "size" .size fun size d => { d with size },
    .mayHave "digest" .text fun text d => { d with digest := ⟨text⟩ },
    .mayHave "urls" (.list .text) fun urls d => { d with urls },
    .mayHave "annotations" (.map .text) fun annotations d => { d with annotations },
    .mayHave "platform" (.optional Platform.record.read) fun platform d => { d with platform },
    .mayHave "artifactType" (.optional .text) fun artifactType d => { d with artifactType }]
  empty := {}

/-- The descriptor that a text holds. -/
def parse (text : Bytes) : Read Descriptor := Reader.run record.read text

end Descriptor

end ArtifactRegistry
