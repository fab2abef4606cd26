import ArtifactRegistry.Manifest.Document
import ArtifactRegistry.Proofs.Json.Records

/-! # No document is of two kinds

The outline that the probe reads and the contents that the schema reads come from the same members.
An image manifest must have a configuration, which the probe then refuses for other kinds; an index
and an artifact manifest differ in the media type that they must declare. Records may also be
written as lists, but the outline has too few fields for a list with a configuration, and without
one the first field of every schema is missing. So a text can be read as one kind at most:
`parse_exclusive`.
-/

namespace ArtifactRegistry

open Json

/-- The document is an object in which members with this name hold nothing but null. -/
def Json.Document.Lacks (document : Document) (name : String) : Prop :=
  ∃ members, document.root = .object members .closed ∧
    ∀ member ∈ members, member.1.text = .ok name → member.2 = .null

theorem Payload.verbatim_eq_ok_iff {text : Bytes} {payload : Payload} :
    verbatim text = .ok payload ↔ payload.bytes = text := by
  rw [verbatim]
  split
  · next empty =>
    constructor
    · intro sealed
      cases sealed
    · intro same
      exact absurd (same.trans empty) payload.nonempty
  · constructor
    · rintro ⟨⟩
      rfl
    · rintro rfl
      rfl

namespace Manifest

theorem probe_eq_ok_iff {kind : Kind} {text : Bytes} :
    probe kind text = .ok () ↔
      ∃ outline, Outline.record.read.run text = .ok outline ∧ outline.kind? kind = none := by
  rw [probe]
  cases Outline.record.read.run text with
  | error source => simp
  | ok outline => cases betrayed : outline.kind? kind <;> simp [betrayed]

/-- What a text must pass to be read as a manifest. -/
theorem parse_eq_ok_iff {kind : Kind} {text : Bytes} {manifest : Manifest} :
    parse kind text = .ok manifest ↔
      (∃ outline, Outline.record.read.run text = .ok outline ∧ outline.kind? kind = none) ∧
      (Variant.reader kind).run text = .ok manifest.variant ∧
      manifest.variant.mediaTypeMatches = true ∧
      ∃ payload, manifest.payload? = some payload ∧ payload.bytes = text := by
  simp only [parse, bind_eq_ok_iff, ← probe_eq_ok_iff, mapError_eq_ok_iff,
    Payload.verbatim_eq_ok_iff]
  constructor
  · rintro ⟨⟨⟩, passed, payload, same, variant, ran, ended⟩
    split at ended
    · next fits =>
      cases ended
      exact ⟨passed, ran, fits, payload, rfl, same⟩
    · cases ended
  · rintro ⟨passed, ran, fits, payload, kept, same⟩
    refine ⟨(), passed, payload, same, manifest.variant, ran, ?_⟩
    rw [if_pos fits, ← kept]
    rfl

theorem kind_of_reader {kind : Kind} {depth : Nat} {node : Node} {variant : Variant}
    (ran : Variant.reader kind depth node = .ok variant) : variant.kind = kind := by
  cases kind <;>
  · obtain ⟨contents, -, rfl⟩ := map_eq_ok_iff.mp ran
    rfl

/-! ## The fields that decide -/

theorem Outline.tracks_config :
    Record.Tracks Outline.record.fields "config" (.optional .value) Outline.config := by
  simp [Record.Tracks, Outline.record, Field.mayHave, map_eq_ok_iff]

theorem Outline.tracks_manifests :
    Record.Tracks Outline.record.fields "manifests" (.optional .value) Outline.manifests := by
  simp [Record.Tracks, Outline.record, Field.mayHave, map_eq_ok_iff]

theorem Image.tracks_config :
    Record.Tracks Image.record.fields "config" Descriptor.record.read Image.config := by
  simp [Record.Tracks, Image.record, Field.mayHave, Field.mustHave, map_eq_ok_iff]

theorem Index.tracks_mediaType :
    Record.Tracks Index.record.fields "mediaType" .text Index.mediaType := by
  simp [Record.Tracks, Index.record, Field.mayHave, map_eq_ok_iff]

theorem Artifact.tracks_mediaType :
    Record.Tracks Artifact.record.fields "mediaType" .text Artifact.mediaType := by
  simp [Record.Tracks, Artifact.record, Field.mayHave, map_eq_ok_iff]

/-- What the probe did not see is not there. -/
theorem Outline.null_of_none {members : List (StringToken × Node)} {depth : Nat} {stop : ObjectEnd}
    {outline : Outline} {name : String} {get : Outline → Option Value}
    (ran : Outline.record.read depth (.object members stop) = .ok outline)
    (tracks : Record.Tracks Outline.record.fields name (.optional .value) get)
    (known : ∃ field ∈ Outline.record.fields, field.name = name) (bare : get outline = none) :
    ∀ member ∈ members, member.1.text = .ok name → member.2 = .null := by
  obtain ⟨inner, seen, -, -, tracked⟩ := Record.read_object_tracks tracks known ran
  intro member there named
  cases tracked with
  | kept same value_eq absent => exact absurd named (absent member there)
  | read unseen stored present read value_eq unique =>
    rw [unique member there named]
    rw [bare] at value_eq
    exact Reader.optional_eq_none value_eq

/-- The outline of a list has at most two items, and without a configuration the first is null. -/
theorem Outline.of_list {depth : Nat} {items : List Node} {stop : ListEnd} {outline : Outline}
    (ran : Outline.record.read depth (.list items stop) = .ok outline) :
    items.length ≤ 2 ∧ (outline.config = none → ∀ first ∈ items.head?, first = .null) := by
  constructor
  · obtain ⟨inner, -, ran⟩ := bind_eq_ok_iff.mp ran
    exact (Record.readItems_eq_ok ran).1
  · intro bare first here
    obtain ⟨others, rfl⟩ := List.head?_eq_some_iff.mp here
    obtain ⟨inner, read⟩ :=
      Record.read_list_first rfl Outline.tracks_config (by simp [Field.mayHave]) ran
    rw [bare] at read
    exact Reader.optional_eq_none read

/-- A passed probe leaves the expected kind only. -/
theorem Outline.kind?_eq_none_iff {outline : Outline} {kind : Kind} :
    outline.kind? kind = none ↔ (kind ≠ .index → outline.manifests = none) ∧
      (kind ≠ .image → outline.config = none) := by
  obtain ⟨config, manifests⟩ := outline
  cases kind <;> cases config <;> cases manifests <;> simp [Outline.kind?]

/-! ## Documents are objects -/

/-- The configuration of an image manifest is the third item of a list. -/
theorem Image.length_of_list {depth : Nat} {items : List Node} {stop : ListEnd} {contents : Image}
    (ran : Image.record.read depth (.list items stop) = .ok contents) : 2 < items.length := by
  obtain ⟨inner, -, ran⟩ := bind_eq_ok_iff.mp ran
  have needless := (Record.readItems_eq_ok ran).2
  apply Nat.lt_of_not_le
  intro short
  have missing : (Image.record.fields.drop items.length).any Field.required = true := by
    rcases items with _ | ⟨_, _ | ⟨_, _ | _⟩⟩
    · rfl
    · rfl
    · rfl
    · simp only [List.length_cons] at short
      omega
  obtain ⟨field, member, required⟩ := List.any_eq_true.mp missing
  rw [needless field member] at required
  cases required

/-- A text that is read as a manifest is an object. -/
theorem root_of_parse {kind : Kind} {text : Bytes} {manifest : Manifest}
    (parsed : parse kind text = .ok manifest) :
    ∃ members, (Document.ofBytes text).root = .object members .closed := by
  obtain ⟨⟨outline, outlined, betrays⟩, ran, fits, -⟩ := parse_eq_ok_iff.mp parsed
  rw [Reader.run_eq_ok_iff] at outlined ran
  replace outlined := outlined.1
  replace ran := ran.1
  cases root : (Document.ofBytes text).root with
  | object members stop =>
    rw [root] at outlined
    obtain ⟨rfl, -⟩ := Record.read_object_eq_ok_iff.mp outlined
    exact ⟨members, rfl⟩
  | list items stop =>
    rw [root] at outlined ran
    obtain ⟨short, bare⟩ := Outline.of_list outlined
    obtain ⟨-, noConfig⟩ := Outline.kind?_eq_none_iff.mp betrays
    cases kind with
    | image =>
      obtain ⟨contents, read, -⟩ := map_eq_ok_iff.mp ran
      exact absurd (Image.length_of_list read) (Nat.not_lt.mpr short)
    | index =>
      obtain ⟨contents, read, variant⟩ := map_eq_ok_iff.mp ran
      have bare := bare (noConfig nofun)
      obtain rfl := Record.read_list_of_null rfl (fun _ _ => ⟨_, rfl⟩) bare read
      rw [← variant] at fits
      exact absurd fits (by decide)
    | artifact =>
      obtain ⟨contents, read, variant⟩ := map_eq_ok_iff.mp ran
      have bare := bare (noConfig nofun)
      obtain rfl := Record.read_list_of_null rfl (fun _ _ => ⟨_, rfl⟩) bare read
      rw [← variant] at fits
      exact absurd fits (by decide)
  | _ =>
    rw [root] at outlined
    exact absurd outlined (Node.refuse_ne_ok _ _ _)

/-! ## At most one kind -/

/-- A kind of manifest that was read does not have the members of the other kinds. -/
theorem lacks_of_parse {kind : Kind} {text : Bytes} {manifest : Manifest}
    (parsed : parse kind text = .ok manifest) :
    (kind ≠ .index → (Document.ofBytes text).Lacks "manifests") ∧
      (kind ≠ .image → (Document.ofBytes text).Lacks "config") := by
  obtain ⟨members, root⟩ := root_of_parse parsed
  obtain ⟨⟨outline, outlined, betrays⟩, -⟩ := parse_eq_ok_iff.mp parsed
  replace outlined := (Reader.run_eq_ok_iff.mp outlined).1
  rw [root] at outlined
  obtain ⟨noManifests, noConfig⟩ := Outline.kind?_eq_none_iff.mp betrays
  constructor
  · intro other
    exact ⟨members, root, Outline.null_of_none outlined Outline.tracks_manifests
      (by simp [Outline.record, Field.mayHave]) (noManifests other)⟩
  · intro other
    exact ⟨members, root, Outline.null_of_none outlined Outline.tracks_config
      (by simp [Outline.record, Field.mayHave]) (noConfig other)⟩

/-- An image manifest has a configuration. -/
theorem not_lacks_of_parse_image {text : Bytes} {manifest : Manifest}
    (parsed : parse .image text = .ok manifest) : ¬ (Document.ofBytes text).Lacks "config" := by
  rintro ⟨members, root, lacks⟩
  obtain ⟨-, ran, -⟩ := parse_eq_ok_iff.mp parsed
  obtain ⟨contents, read, -⟩ := map_eq_ok_iff.mp (Reader.run_eq_ok_iff.mp ran).1
  rw [root] at read
  have known : ∃ field ∈ Image.record.fields, field.name = "config" ∧ field.required := by
    simp [Image.record, Field.mustHave, Field.mayHave]
  obtain ⟨field, member, named, required⟩ := known
  obtain ⟨inner, seen, -, all, tracked⟩ :=
    Record.read_object_tracks Image.tracks_config ⟨field, member, named⟩ read
  cases tracked with
  | kept same => exact same.mpr (named ▸ all field member required)
  | @read key node unseen stored present text value_eq =>
    have null : node = .null := lacks (key, node) present text
    rw [null] at value_eq
    cases value_eq

theorem Variant.mediaTypeMatches_iff {variant : Variant} :
    variant.mediaTypeMatches = true ↔ variant.declaredMediaType = variant.kind.mediaType ∨
      variant.kind = .image ∧ variant.declaredMediaType = "" := by
  simp [mediaTypeMatches]

/-- Other manifests than those of images must declare their media type. -/
theorem mediaType_of_parse {kind : Kind} {text : Bytes} {manifest : Manifest}
    {members : List (StringToken × Node)} (parsed : parse kind text = .ok manifest)
    (root : (Document.ofBytes text).root = .object members .closed) (noImage : kind ≠ .image) :
    ∃ seen, Record.Tracked .text 1 "mediaType" "" kind.mediaType members False seen := by
  obtain ⟨-, ran, fits, -⟩ := parse_eq_ok_iff.mp parsed
  replace ran := (Reader.run_eq_ok_iff.mp ran).1
  have declared : manifest.variant.declaredMediaType = kind.mediaType := by
    have either := Variant.mediaTypeMatches_iff.mp fits
    rw [kind_of_reader ran] at either
    rcases either with declared | ⟨isImage, -⟩
    · exact declared
    · exact absurd isImage noImage
  rw [root] at ran
  cases kind with
  | image => exact absurd rfl noImage
  | index =>
    obtain ⟨contents, read, variant⟩ := map_eq_ok_iff.mp ran
    obtain ⟨inner, seen, entered, -, tracked⟩ := Record.read_object_tracks Index.tracks_mediaType
      (by simp [Index.record, Field.mayHave]) read
    cases entered
    rw [← variant] at declared
    have mediaType_eq : contents.mediaType = Kind.index.mediaType := declared
    rw [mediaType_eq] at tracked
    exact ⟨_, tracked⟩
  | artifact =>
    obtain ⟨contents, read, variant⟩ := map_eq_ok_iff.mp ran
    obtain ⟨inner, seen, entered, -, tracked⟩ := Record.read_object_tracks Artifact.tracks_mediaType
      (by simp [Artifact.record, Field.mayHave]) read
    cases entered
    rw [← variant] at declared
    have mediaType_eq : contents.mediaType = Kind.artifact.mediaType := declared
    rw [mediaType_eq] at tracked
    exact ⟨_, tracked⟩

theorem Kind.mediaType_injective {kind kind' : Kind} (same : kind.mediaType = kind'.mediaType) :
    kind = kind' := by
  have known := ofMediaType?_mediaType kind
  rw [same, ofMediaType?_mediaType] at known
  exact (Option.some.inj known).symm

/-- No text can be read as two kinds of manifest. -/
theorem kind_unique {kind kind' : Kind} {text : Bytes} {manifest manifest' : Manifest}
    (parsed : parse kind text = .ok manifest) (parsed' : parse kind' text = .ok manifest') :
    kind = kind' := by
  by_cases isImage : kind = .image
  · subst isImage
    by_cases isImage' : kind' = .image
    · exact isImage'.symm
    · exact absurd ((lacks_of_parse parsed').2 isImage') (not_lacks_of_parse_image parsed)
  by_cases isImage' : kind' = .image
  · subst isImage'
    exact absurd ((lacks_of_parse parsed).2 isImage) (not_lacks_of_parse_image parsed')
  obtain ⟨members, root⟩ := root_of_parse parsed
  obtain ⟨_, tracked⟩ := mediaType_of_parse parsed root isImage
  obtain ⟨_, tracked'⟩ := mediaType_of_parse parsed' root isImage'
  exact Kind.mediaType_injective (tracked.unique tracked')

/-- Any text can be read as a manifest of one kind at most. What is read as something else than an
index has no manifests, and what is read as something else than an image manifest has no
configuration. -/
theorem parse_exclusive (text : Bytes) :
    (∀ kind kind' manifest manifest', parse kind text = .ok manifest →
      parse kind' text = .ok manifest' → kind = kind') ∧
    ∀ kind manifest, parse kind text = .ok manifest →
      (kind ≠ .index → (Document.ofBytes text).Lacks "manifests") ∧
      (kind ≠ .image → (Document.ofBytes text).Lacks "config") := by
  constructor
  · intro kind kind' manifest manifest' parsed parsed'
    exact kind_unique parsed parsed'
  · intro kind manifest parsed
    exact lacks_of_parse parsed

/-- An index that says no more than what it is. -/
theorem parse_exclusive_bare_index :
    ∃ text manifest, parse .index text = .ok manifest ∧ (Document.ofBytes text).Lacks "config" ∧
      ∀ kind manifest', parse kind text = .ok manifest' → kind = .index := by
  let text : Bytes := (Variant.index { mediaType := Kind.index.mediaType }).toJson.canonical
  have succeeds : (parse .index text).isOk = true := by decide +kernel
  obtain ⟨manifest, parsed⟩ := exists_eq_ok_of_isOk succeeds
  obtain ⟨only, lacks⟩ := parse_exclusive text
  exact ⟨text, manifest, parsed, (lacks .index manifest parsed).2 nofun,
    fun kind manifest' other => only kind .index manifest' manifest other parsed⟩

end Manifest

end ArtifactRegistry
