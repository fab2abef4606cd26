import ArtifactRegistry.Proofs.Json.Skipping
import ArtifactRegistry.Proofs.Manifest.Lookup

/-! # Routing by what a document declares

A document that comes without a content type of its own is read by the media type that it declares.
Whatever can be read as a manifest of some kind declares the media type of this kind, or nothing
when it is an image manifest, `route_of_parse`: the declaration is one field of every schema, and
the rest of a document that a schema accepts can be skipped. So leaving the choice to the document
comes to the same as naming the kind, `unmarshal_generic_iff`.
-/

namespace ArtifactRegistry

open Json Manifest Field Reader

/-! ## What schemas read can be skipped -/

theorem Platform.read_thorough : Thorough Platform.record.read := by
  apply Record.read_thorough
  simp only [record, List.forall_mem_cons, List.not_mem_nil, false_imp_iff, implies_true, and_true]
  exact ⟨mustHave_thorough text_thorough _ _, mustHave_thorough text_thorough _ _,
    mayHave_thorough text_thorough.optional _ _, mayHave_thorough text_thorough.list _ _,
    mayHave_thorough text_thorough.optional _ _, mayHave_thorough text_thorough.list _ _⟩

theorem Descriptor.read_thorough : Thorough Descriptor.record.read := by
  apply Record.read_thorough
  simp only [record, List.forall_mem_cons, List.not_mem_nil, false_imp_iff, implies_true, and_true]
  exact ⟨mayHave_thorough text_thorough _ _,
    mayHave_thorough ((integer_thorough _ _ _).map _) _ _, mayHave_thorough text_thorough _ _,
    mayHave_thorough text_thorough.list _ _, mayHave_thorough text_thorough.entries _ _,
    mayHave_thorough Platform.read_thorough.optional _ _,
    mayHave_thorough text_thorough.optional _ _⟩

namespace Manifest

theorem schemaVersionReader_thorough : Thorough schemaVersionReader :=
  (integer_thorough _ _ _).map _

theorem Image.fields_thorough : ∀ field ∈ Image.record.fields, field.Thorough := by
  simp only [record, List.forall_mem_cons, List.not_mem_nil, false_imp_iff, implies_true, and_true]
  exact ⟨mayHave_thorough schemaVersionReader_thorough _ _, mayHave_thorough text_thorough _ _,
    mustHave_thorough Descriptor.read_thorough _ _,
    mayHave_thorough Descriptor.read_thorough.list _ _, mayHave_thorough text_thorough.entries _ _⟩

theorem Index.fields_thorough : ∀ field ∈ Index.record.fields, field.Thorough := by
  simp only [record, List.forall_mem_cons, List.not_mem_nil, false_imp_iff, implies_true, and_true]
  exact ⟨mayHave_thorough schemaVersionReader_thorough _ _, mayHave_thorough text_thorough _ _,
    mayHave_thorough Descriptor.read_thorough.list _ _, mayHave_thorough text_thorough.entries _ _⟩

theorem Artifact.fields_thorough : ∀ field ∈ Artifact.record.fields, field.Thorough := by
  simp only [record, List.forall_mem_cons, List.not_mem_nil, false_imp_iff, implies_true, and_true]
  exact ⟨mayHave_thorough text_thorough _ _, mayHave_thorough text_thorough.optional _ _,
    mayHave_thorough Descriptor.read_thorough.list _ _,
    mayHave_thorough Descriptor.read_thorough.optional _ _,
    mayHave_thorough text_thorough.entries _ _⟩

/-! ## Declarations -/

theorem Image.tracks_mediaType :
    Record.Tracks Image.record.fields "mediaType" .text Image.mediaType := by
  simp [Record.Tracks, Image.record, Field.mayHave, Field.mustHave, map_eq_ok_iff]

/-- What a schema reads as an object declares the media type that the schema reads. -/
theorem declaration_of_read {δ : Type} {schema : Record δ} {get : δ → String}
    (thorough : ∀ field ∈ schema.fields, field.Thorough)
    (tracks : Record.Tracks schema.fields "mediaType" .text get)
    (known : ∃ field ∈ schema.fields, field.name = "mediaType") (initial : get schema.empty = "")
    {depth : Nat} {members : List (StringToken × Node)} {stop : ObjectEnd} {contents : δ}
    (read : schema.read depth (.object members stop) = .ok contents) :
    SchemaRegistry.Declaration.record.read depth (.object members stop) = .ok ⟨get contents⟩ := by
  have alone : ∃ declaration : SchemaRegistry.Declaration,
      SchemaRegistry.Declaration.record.read depth (.object members stop) = .ok declaration ∧
        declaration.mediaType = get contents :=
    Record.read_alone rfl (fun _ _ => rfl) thorough tracks known initial.symm read
  obtain ⟨⟨mediaType⟩, declared, rfl⟩ := alone
  exact declared

/-- A text that is read as a manifest declares what the manifest does. -/
theorem declaration_of_parse {kind : Kind} {text : Bytes} {manifest : Manifest}
    (parsed : parse kind text = .ok manifest) :
    SchemaRegistry.Declaration.record.read.run text = .ok ⟨manifest.variant.declaredMediaType⟩ := by
  obtain ⟨members, root⟩ := root_of_parse parsed
  obtain ⟨-, ran, -⟩ := parse_eq_ok_iff.mp parsed
  obtain ⟨read, last⟩ := Reader.run_eq_ok_iff.mp ran
  rw [root] at read
  rw [Reader.run_eq_ok_iff, root]
  refine ⟨?_, last⟩
  cases kind with
  | image =>
    obtain ⟨contents, read, variant_eq⟩ := map_eq_ok_iff.mp read
    rw [← variant_eq]
    exact declaration_of_read Image.fields_thorough Image.tracks_mediaType
      (by simp [Image.record, mayHave]) rfl read
  | index =>
    obtain ⟨contents, read, variant_eq⟩ := map_eq_ok_iff.mp read
    rw [← variant_eq]
    exact declaration_of_read Index.fields_thorough Index.tracks_mediaType
      (by simp [Index.record, mayHave]) rfl read
  | artifact =>
    obtain ⟨contents, read, variant_eq⟩ := map_eq_ok_iff.mp read
    rw [← variant_eq]
    exact declaration_of_read Artifact.fields_thorough Artifact.tracks_mediaType
      (by simp [Artifact.record, mayHave]) rfl read

end Manifest

namespace SchemaRegistry

variable {text : Bytes} {manifest : Manifest} {descriptor : Descriptor}

/-- A text that is read as a manifest of a kind is routed to this kind when it may choose. -/
theorem route_of_parse {contentType : String} (generic : isGeneric contentType = true) {kind : Kind}
    (parsed : parse kind text = .ok manifest) : route contentType text = .ok kind.mediaType := by
  obtain ⟨-, ran, fits, -⟩ := parse_eq_ok_iff.mp parsed
  obtain rfl : manifest.variant.kind = kind := kind_of_reader (Reader.run_eq_ok_iff.mp ran).1
  rw [route, if_pos generic, declaredMediaType, declaration_of_parse parsed]
  rcases Variant.mediaTypeMatches_iff.mp fits with declared | ⟨isImage, declared⟩
  · have named : manifest.variant.kind.mediaType ≠ "" := by
      cases manifest.variant.kind <;> decide
    simp only [declared, named, if_false]
  · simp only [declared, isImage, if_true]

/-- What the reader of a kind returns. -/
theorem unmarshal_kind_iff {kind : Kind} :
    kind.unmarshal text = .ok (manifest, descriptor) ↔
      parse kind text = .ok manifest ∧ descriptor = .ofPayload kind.mediaType text := by
  simp only [Kind.unmarshal, bind_eq_ok_iff]
  constructor
  · rintro ⟨_, parsed, _, stated, ⟨⟩⟩
    exact ⟨parsed, Except.ok.inj (stated.symm.trans (descriptor_of_parse parsed))⟩
  · rintro ⟨parsed, rfl⟩
    exact ⟨manifest, parsed, _, descriptor_of_parse parsed, rfl⟩

/-- A document is read by the reader of the media type that it is routed to. -/
theorem unmarshal_ok_iff {registry : SchemaRegistry} {contentType : String} :
    registry.unmarshal contentType text = .ok (manifest, descriptor) ↔
      ∃ mediaType reader, route contentType text = .ok mediaType ∧
        registry.lookup mediaType = .ok reader ∧ reader text = .ok (manifest, descriptor) := by
  simp only [unmarshal, bind_eq_ok_iff]
  constructor
  · rintro ⟨mediaType, routed, reader, found, ran⟩
    exact ⟨mediaType, reader, routed, found, ran⟩
  · rintro ⟨mediaType, reader, routed, found, ran⟩
    exact ⟨mediaType, routed, reader, found, ran⟩

/-- Only the media types of kinds have a reader. -/
theorem lookup_eq_ok {mediaType : String} {reader : Unmarshal}
    (found : withDefaults.lookup mediaType = .ok reader) :
    ∃ kind : Kind, mediaType = kind.mediaType ∧ reader = kind.unmarshal := by
  by_cases known : ∃ kind : Kind, mediaType = kind.mediaType
  · obtain ⟨kind, rfl⟩ := known
    rw [lookup_mediaType] at found
    exact ⟨kind, rfl, (Except.ok.inj found).symm⟩
  · rw [lookup_of_foreign (not_exists.mp known)] at found
    cases found

/-- A document that comes as a manifest of a kind is read as one. -/
theorem unmarshal_mediaType_iff {kind : Kind} :
    withDefaults.unmarshal kind.mediaType text = .ok (manifest, descriptor) ↔
      parse kind text = .ok manifest ∧ descriptor = .ofPayload kind.mediaType text := by
  rw [unmarshal_mediaType, unmarshal_kind_iff]

/-- A document that may choose is read as a manifest of some kind. -/
theorem unmarshal_of_isGeneric {contentType : String} (generic : isGeneric contentType = true) :
    withDefaults.unmarshal contentType text = .ok (manifest, descriptor) ↔
      ∃ kind : Kind, withDefaults.unmarshal kind.mediaType text = .ok (manifest, descriptor) := by
  constructor
  · intro ran
    obtain ⟨_, _, routed, found, ran⟩ := unmarshal_ok_iff.mp ran
    obtain ⟨kind, rfl, rfl⟩ := lookup_eq_ok found
    exact ⟨kind, unmarshal_mediaType_iff.mpr (unmarshal_kind_iff.mp ran)⟩
  · rintro ⟨kind, ran⟩
    have read := unmarshal_mediaType_iff.mp ran
    exact unmarshal_ok_iff.mpr ⟨_, _, route_of_parse generic read.1, lookup_mediaType kind,
      unmarshal_kind_iff.mpr read⟩

/-- A document is read without a content type, or with that of any JSON document, exactly when it is
read with the media type of one of the kinds of manifests, and as the same manifest: the one that it
is as a document of this kind, under the digest of its own bytes. -/
theorem unmarshal_generic_iff (text : Bytes) (manifest : Manifest) (descriptor : Descriptor) :
    (withDefaults.unmarshal "" text = .ok (manifest, descriptor) ↔
        ∃ kind : Kind, withDefaults.unmarshal kind.mediaType text = .ok (manifest, descriptor)) ∧
      (withDefaults.unmarshal "application/json" text = .ok (manifest, descriptor) ↔
        ∃ kind : Kind, withDefaults.unmarshal kind.mediaType text = .ok (manifest, descriptor)) ∧
      ∀ kind : Kind, withDefaults.unmarshal kind.mediaType text = .ok (manifest, descriptor) ↔
        parse kind text = .ok manifest ∧ descriptor = .ofPayload kind.mediaType text :=
  ⟨unmarshal_of_isGeneric rfl, unmarshal_of_isGeneric rfl, fun _ => unmarshal_mediaType_iff⟩

/-- An image manifest that does not say what it is, with an escape in the name that gives it
away. -/
example : (withDefaults.unmarshal ""
    (Bytes.ofText "\x7b\"c\\u006fnfig\":\x7b\x7d\x7d")).isOk = true := by
  decide +kernel

end SchemaRegistry

end ArtifactRegistry
