import ArtifactRegistry.Proofs.Json.Derivation
import ArtifactRegistry.Proofs.Manifest.RoundTrip
import ArtifactRegistry.Proofs.Manifest.Routing

/-! # Manifests are objects

A text that is read as a manifest is one object of the grammar, with blanks around it, and a text that
starts with a bracket is read as none: `parse_object`. That takes the probe and the schema together.
Either of them reads lists too: the schema of each kind reads all contents of the kind back from the
list of their fields, `Variant.read_fields`, and the probe reads an outline from a list of two. A text
that is read as a manifest need not be UTF-8, `parse_of_unread_bytes`, but only strings that nobody
reads can tell.
-/

namespace ArtifactRegistry.Manifest

open Json

/-! ## Contents written as lists -/

/-- Reading the items goes on behind a field that was stored. -/
theorem readItems_stored {δ α : Type} {record : Record δ} {depth position : Nat} {name : String}
    {reader : Reader α} {set : α → δ → δ} {required : Bool} {fields : List (Json.Field δ)} {node : Node}
    {nodes : List Node} {value : α} {before after : δ} (reads : reader depth node = .ok value)
    (others : Record.readItems record depth .closed (position + 1) fields nodes (set value before) =
      .ok after) :
    Record.readItems record depth .closed position
      ({ Field.mayHave name reader set with required } :: fields) (node :: nodes) before =
        .ok after :=
  bind_eq_ok_iff.mpr ⟨set value before, map_eq_ok_iff.mpr ⟨value, reads, rfl⟩, others⟩

/-- Null stands for nothing. -/
theorem optional_elim {α : Type} {reader : Reader α} {depth : Nat} {toJson : α → Value}
    (reads : ∀ value, reader depth (toJson value).node = .ok value)
    (something : ∀ value, (toJson value).node ≠ .null) (value? : Option α) :
    Reader.optional reader depth (value?.elim .null toJson).node = .ok value? := by
  cases value? with
  | none => rfl
  | some value => exact Reader.optional_node (reads value) (something value)

namespace Variant

/-- The fields of the contents in declared order. -/
def fields : Variant → List Value
  | image m => [.ofInt m.schemaVersion.toNat, .string m.mediaType, m.config.toJson,
      .list (m.layers.map Descriptor.toJson), .ofMap m.annotations]
  | index m => [.ofInt m.schemaVersion.toNat, .string m.mediaType,
      .list (m.manifests.map Descriptor.toJson), .ofMap m.annotations]
  | artifact m => [.string m.mediaType, m.artifactType.elim .null .string,
      .list (m.blobs.map Descriptor.toJson), m.subject.elim .null Descriptor.toJson,
      .ofMap m.annotations]

theorem fits_fields (variant : Variant) : (Value.list variant.fields).fits 5 = true := by
  cases variant with
  | image m => simp [fields, Value.fits, itemsFit]
  | index m => simp [fields, Value.fits, itemsFit]
  | artifact m =>
    cases artifactType : m.artifactType <;> cases subject : m.subject <;>
      simp [fields, Value.fits, itemsFit, artifactType, subject]

/-- The contents are read from the list of their fields. -/
theorem read_fields (variant : Variant) :
    reader variant.kind 0 (Value.list variant.fields).node = .ok variant := by
  cases variant with
  | image m =>
    refine map_eq_ok_iff.mpr ⟨m, ?_, rfl⟩
    exact readItems_stored (schemaVersionReader_node _) <|
      readItems_stored (Reader.text_string _) <|
      readItems_stored (m.config.read_toJson (by decide)) <|
      readItems_stored (Reader.list_node (by decide) fun layer _ => layer.read_toJson (by decide)) <|
      readItems_stored (Reader.map_ofMap _ (by decide)) rfl
  | index m =>
    refine map_eq_ok_iff.mpr ⟨m, ?_, rfl⟩
    exact readItems_stored (schemaVersionReader_node _) <|
      readItems_stored (Reader.text_string _) <|
      readItems_stored (Reader.list_node (by decide) fun part _ => part.read_toJson (by decide)) <|
      readItems_stored (Reader.map_ofMap _ (by decide)) rfl
  | artifact m =>
    refine map_eq_ok_iff.mpr ⟨m, ?_, rfl⟩
    exact readItems_stored (Reader.text_string _) <|
      readItems_stored (optional_elim Reader.text_string (fun _ => nofun) _) <|
      readItems_stored (Reader.list_node (by decide) fun blob _ => blob.read_toJson (by decide)) <|
      readItems_stored (optional_elim (fun subject => subject.read_toJson (by decide))
        (fun _ => by nofun) _) <|
      readItems_stored (Reader.map_ofMap _ (by decide)) rfl

end Variant

/-! ## The grammar of manifests -/

theorem Variant.reader_thorough (kind : Kind) : (Variant.reader kind).Thorough := by
  cases kind with
  | image => exact (Record.read_thorough Image.fields_thorough).map Variant.image
  | index => exact (Record.read_thorough Index.fields_thorough).map Variant.index
  | artifact => exact (Record.read_thorough Artifact.fields_thorough).map Variant.artifact

theorem enclosed_of_parse {kind : Kind} {text : Bytes} {manifest : Manifest}
    (parsed : parse kind text = .ok manifest) : Phrase.object.Enclosed text := by
  obtain ⟨members, root⟩ := root_of_parse parsed
  obtain ⟨-, ran, -⟩ := parse_eq_ok_iff.mp parsed
  have enclosed := (Variant.reader_thorough kind).enclosed ran
  rw [root] at enclosed
  exact enclosed

/-- The contents are read alike from the tree without the strings that have no text. -/
theorem read_mended_of_parse {kind : Kind} {text : Bytes} {manifest : Manifest}
    (parsed : parse kind text = .ok manifest) :
    Variant.reader kind 0 (Document.ofBytes text).root.mended = .ok manifest.variant := by
  obtain ⟨-, ran, -⟩ := parse_eq_ok_iff.mp parsed
  obtain ⟨read, -⟩ := Reader.run_eq_ok_iff.mp ran
  exact (Variant.reader_thorough kind).mended read

theorem ofBytes_list {items : List Value} {levels : Nat}
    (fits : (Value.list items).fits levels = true) :
    Document.ofBytes (Value.list items).canonical = ⟨(Value.list items).node, false⟩ :=
  Document.ofBytes_write (Layout.addsBlanks_indented 3) (isIntegral_of_fits fits) 0

theorem canonical_list (items : List Value) :
    ∃ rest, (Value.list items).canonical = 0x5b :: rest := by
  cases items with
  | nil => exact ⟨_, rfl⟩
  | cons first others => exact ⟨_, rfl⟩

end ArtifactRegistry.Manifest
