import ArtifactRegistry.Proofs.Descriptor
import ArtifactRegistry.Proofs.Manifest.Exclusive

/-! # Manifests read back

The canonical bytes of a manifest are read back as the manifest that they were written for. The
document is read twice: the contents come back field by field, and the outline has a configuration
exactly when they are those of an image manifest, and manifests exactly when they are those of an
index. So the probe lets the document pass for its own kind, and `parse_ofVariant` needs nothing but
a declared media type that fits the kind.
-/

namespace ArtifactRegistry.Manifest

open Json Json.Record

variable {depth : Nat}

theorem schemaVersionReader_node (version : UInt32) :
    schemaVersionReader depth (Value.ofInt version.toNat).node = .ok version := by
  have bound := version.toNat_lt
  rw [schemaVersionReader, Reader.integer_ofInt "u32" (by omega) (by omega) (by omega) (by omega)]
  exact congrArg Except.ok version.ofNat_toNat

namespace Image

theorem read_toJson (m : Image) (shallow : depth + 5 < nestingLimit) :
    record.read depth m.toJson.node = .ok m := by
  have level : depth + 1 + 1 < nestingLimit := by omega
  refine read_of_written (by decide) (by omega) ?_
  simp only [List.cons_append, List.append_assoc, List.nil_append]
  refine .always (schemaVersionReader_node _) <| .ifShown (Reader.text_string _) ?_ <|
    .must (m.config.read_toJson (by omega)) <|
    .always (Reader.list_node level fun layer _ => layer.read_toJson (by omega)) <|
    .ifShown (Reader.map_ofMap _ level) ?_ <| .done _
  · intro hidden
    rw [show m.mediaType = "" by simpa using hidden]
    rfl
  · intro hidden
    rw [show m.annotations = ∅ from SortedMap.eq_empty_of_isEmpty (by simpa using hidden)]
    rfl

end Image

namespace Index

theorem read_toJson (m : Index) (shallow : depth + 5 < nestingLimit) :
    record.read depth m.toJson.node = .ok m := by
  have level : depth + 1 + 1 < nestingLimit := by omega
  refine read_of_written (by decide) (by omega) ?_
  simp only [List.cons_append, List.nil_append]
  refine .always (schemaVersionReader_node _) <| .always (Reader.text_string _) <|
    .always (Reader.list_node level fun part _ => part.read_toJson (by omega)) <|
    .ifShown (Reader.map_ofMap _ level) ?_ <| .done _
  intro hidden
  rw [show m.annotations = ∅ from SortedMap.eq_empty_of_isEmpty (by simpa using hidden)]
  rfl

end Index

namespace Artifact

theorem read_toJson (m : Artifact) (shallow : depth + 5 < nestingLimit) :
    record.read depth m.toJson.node = .ok m := by
  have level : depth + 1 + 1 < nestingLimit := by omega
  refine read_of_written (by decide) (by omega) ?_
  simp only [List.cons_append, List.append_assoc, List.nil_append]
  refine .always (Reader.text_string _) <| .textIfSome rfl <|
    .ifShown (Reader.list_node level fun blob _ => blob.read_toJson (by omega)) ?_ <|
    .ifSome (fun subject _ => subject.read_toJson (by omega)) (fun _ => nofun) rfl <|
    .ifShown (Reader.map_ofMap _ level) ?_ <| .done _
  · intro hidden
    rw [show m.blobs = [] by simpa using hidden]
    rfl
  · intro hidden
    rw [show m.annotations = ∅ from SortedMap.eq_empty_of_isEmpty (by simpa using hidden)]
    rfl

end Artifact

/-! ## The outline of a written manifest -/

theorem fits_parts (parts : List Descriptor) :
    (Value.list (parts.map Descriptor.toJson)).fits 4 = true := by
  simp [Value.fits]

theorem Image.outline_toJson (m : Image) :
    Outline.record.read 0 m.toJson.node = .ok { config := some m.config.toJson.settle } := by
  have reads := readValue_node 1 (m.config.fits_toJson 0) (by decide)
  refine read_of_written (by decide) (by decide) ?_
  simp only [List.append_assoc]
  exact .skip (by decide) (Value.fits_version 0 _) <|
    .skipShown (by decide) (Value.fits_string 0 _) <|
    .always (Reader.optional_node reads nofun) <| .absent rfl <|
    .skip (by decide) (fits_parts _) <|
    .skipShown (by decide) (Value.fits_ofMap 0 _) <| .done _

theorem Index.outline_toJson (m : Index) : Outline.record.read 0 m.toJson.node =
    .ok { manifests := some (Value.list (m.manifests.map Descriptor.toJson)).settle } := by
  have reads := readValue_node 1 (fits_parts m.manifests) (by decide)
  refine read_of_written (by decide) (by decide) ?_
  simp only [List.append_assoc]
  exact .skip (by decide) (Value.fits_version 0 _) <|
    .skip (by decide) (Value.fits_string 0 _) <|
    .absent rfl <| .always (Reader.optional_node reads nofun) <|
    .skipShown (by decide) (Value.fits_ofMap 0 _) <| .done _

theorem Artifact.outline_toJson (m : Artifact) :
    Outline.record.read 0 m.toJson.node = .ok {} := by
  refine read_of_written (by decide) (by decide) ?_
  simp only [List.append_assoc]
  exact .absent rfl <| .absent rfl <| .skip (by decide) (Value.fits_string 0 _) <|
    .skipSome (by decide) (Value.fits_string 0) <|
    .skipShown (by decide) (fits_parts _) <|
    .skipSome (by decide) (fun subject => subject.fits_toJson 0) <|
    .skipShown (by decide) (Value.fits_ofMap 0 _) <| .done _

/-! ## Canonical bytes -/

namespace Variant

theorem fits_toJson (variant : Variant) : variant.toJson.fits 5 = true := by
  cases variant with
  | image m => simp [toJson, Image.toJson, Value.fits, membersFit]
  | index m => simp [toJson, Index.toJson, Value.fits, membersFit]
  | artifact m => simp [toJson, Artifact.toJson, Value.fits, membersFit]

theorem ofBytes_canonical (variant : Variant) :
    Document.ofBytes variant.toJson.canonical = ⟨variant.toJson.node, false⟩ :=
  Document.ofBytes_write (Layout.addsBlanks_indented 3) (isIntegral_of_fits variant.fits_toJson) 0

theorem canonical_ne_nil (variant : Variant) : variant.toJson.canonical ≠ [] := by
  cases variant <;> exact nofun

/-- The contents of a manifest are read back as they were written. -/
theorem read_toJson (variant : Variant) :
    Variant.reader variant.kind 0 variant.toJson.node = .ok variant := by
  cases variant with
  | image m => exact congrArg (Except.map image) (m.read_toJson (by decide))
  | index m => exact congrArg (Except.map index) (m.read_toJson (by decide))
  | artifact m => exact congrArg (Except.map artifact) (m.read_toJson (by decide))

/-- The probe lets a manifest pass for its own kind. -/
theorem outline_toJson (variant : Variant) :
    ∃ outline, Outline.record.read 0 variant.toJson.node = .ok outline ∧
      outline.kind? variant.kind = none := by
  cases variant with
  | image m => exact ⟨_, m.outline_toJson, rfl⟩
  | index m => exact ⟨_, m.outline_toJson, rfl⟩
  | artifact m => exact ⟨_, m.outline_toJson, rfl⟩

/-- The canonical bytes. -/
def canonicalPayload (variant : Variant) : Payload :=
  ⟨variant.toJson.canonical, variant.canonical_ne_nil⟩

end Variant

/-- Sealing never fails. -/
theorem ofVariant_eq (variant : Variant) :
    ofVariant variant = .ok ⟨variant, some variant.canonicalPayload⟩ := by
  have payload : Payload.ofJson variant.toJson = .ok variant.canonicalPayload :=
    Payload.verbatim_eq_ok_iff.mpr rfl
  simp only [ofVariant, draft, Manifest.sealed, payload]

/-- Canonical bytes are read back as the manifest that was sealed. -/
theorem parse_canonical {variant : Variant} (fits : variant.mediaTypeMatches = true) :
    parse variant.kind variant.canonicalPayload.bytes =
      .ok ⟨variant, some variant.canonicalPayload⟩ := by
  have document := variant.ofBytes_canonical
  obtain ⟨outline, outlined, passes⟩ := variant.outline_toJson
  rw [parse_eq_ok_iff]
  simp only [Variant.canonicalPayload, Reader.run_eq_ok_iff, document]
  exact ⟨⟨outline, ⟨outlined, trivial⟩, passes⟩, ⟨variant.read_toJson, trivial⟩, fits, _, rfl, rfl⟩

/-- Contents whose media type fits their kind are sealed, read back as they were from the bytes that
they were sealed with, and sealed with the same bytes again. -/
theorem parse_ofVariant {variant : Variant} (fits : variant.mediaTypeMatches = true) :
    ∃ payload reread, ofVariant variant = .ok ⟨variant, some payload⟩ ∧
      parse variant.kind payload.bytes = .ok reread ∧
      reread.variant = variant ∧ reread.payload = .ok payload ∧
      ofVariant reread.variant = .ok ⟨variant, some payload⟩ :=
  ⟨variant.canonicalPayload, ⟨variant, some variant.canonicalPayload⟩, ofVariant_eq variant,
    parse_canonical fits, rfl, rfl, ofVariant_eq variant⟩

/-- An artifact about another, with a negative size and annotations that need escapes. -/
theorem parse_ofVariant_escaped_annotations :
    ∃ (contents : Artifact) (payload : Payload) (reread : Manifest),
      contents.subject = some { size := -1, digest := ⟨"\x01"⟩ } ∧
      contents.annotations = .ofList [("a\n", "\u2028\\"), ("", "\"")] ∧
      ofVariant (.artifact contents) = .ok ⟨.artifact contents, some payload⟩ ∧
      parse .artifact payload.bytes = .ok reread ∧ reread.variant = .artifact contents := by
  let contents : Artifact :=
    { mediaType := Kind.artifact.mediaType
      subject := some { size := -1, digest := ⟨"\x01"⟩ }
      annotations := .ofList [("a\n", "\u2028\\"), ("", "\"")] }
  obtain ⟨payload, reread, written, read, same, -⟩ :=
    parse_ofVariant (show (Variant.artifact contents).mediaTypeMatches = true by decide +kernel)
  exact ⟨contents, payload, reread, rfl, rfl, written, read, same⟩

end ArtifactRegistry.Manifest
