import ArtifactRegistry.Proofs.Manifest.Exclusive
import ArtifactRegistry.Proofs.Storage.Blobs

/-! # Looking manifests up

With nothing in the way, a lookup depends on the blob under the digest alone. The blob counts as a
manifest by its media type, `exists?_of_calm`, and is read as a manifest of the kind with this media
type, `get_eq_ok_iff`, whether a handler is in charge of the kind or not: `decode_ran`.
-/

namespace ArtifactRegistry

open Manifest ArtifactRegistry.Action

/-! ## Readers by media type -/

theorem Manifest.Kind.ofMediaType?_eq_some_iff {kind : Kind} {mediaType : String} :
    Kind.ofMediaType? mediaType = some kind ↔ kind.mediaType = mediaType := by
  constructor
  · intro known
    simpa using List.find?_some known
  · rintro rfl
    exact Kind.ofMediaType?_mediaType kind

/-- Whatever was read can be described. -/
theorem Manifest.descriptor_of_parse {kind : Kind} {text : Bytes} {manifest : Manifest}
    (parsed : parse kind text = .ok manifest) :
    manifest.descriptor = .ok (.ofPayload kind.mediaType text) := by
  obtain ⟨-, ran, -, payload, kept, rfl⟩ := parse_eq_ok_iff.mp parsed
  obtain rfl : manifest.kind = kind := kind_of_reader (Json.Reader.run_eq_ok_iff.mp ran).1
  rw [Manifest.descriptor, Manifest.payload, kept]
  rfl

/-- So the reader of a kind fails only as the kind does. -/
theorem Manifest.Kind.map_fst_unmarshal (kind : Kind) (text : Bytes) :
    (kind.unmarshal text).map Prod.fst = parse kind text := by
  cases parsed : parse kind text with
  | error source =>
    rw [map_eq_error_iff]
    exact bind_eq_error_iff.mpr (.inl parsed)
  | ok manifest =>
    have described := descriptor_of_parse parsed
    rw [map_eq_ok_iff]
    exact ⟨_, bind_eq_ok_iff.mpr ⟨manifest, parsed, bind_eq_ok_iff.mpr ⟨_, described, rfl⟩⟩, rfl⟩

theorem isManifestMediaType_mediaType (kind : Kind) : isManifestMediaType kind.mediaType = true := by
  cases kind <;> decide

theorem isGeneric_of_isManifestMediaType {mediaType : String}
    (known : isManifestMediaType mediaType = true) :
    SchemaRegistry.isGeneric mediaType = false := by
  refine Bool.eq_false_iff.mpr fun generic => ?_
  have either : mediaType = "" ∨ mediaType = "application/json" := by
    simpa [SchemaRegistry.isGeneric] using generic
  rcases either with rfl | rfl
  · exact absurd known (by decide)
  · exact absurd known (by decide)

namespace SchemaRegistry

theorem lookup_mediaType (kind : Kind) :
    withDefaults.lookup kind.mediaType = .ok kind.unmarshal := by
  cases kind <;> rfl

theorem lookup_of_foreign {mediaType : String}
    (foreign : ∀ kind : Kind, mediaType ≠ kind.mediaType) :
    withDefaults.lookup mediaType = .error (.unknownSchema mediaType) := by
  have missing : withDefaults.readers.get? mediaType = none := by
    simp only [withDefaults, Kind.all, List.foldl_cons, List.foldl_nil, SortedMap.get?_insert,
      if_neg (foreign _)]
    rfl
  rw [lookup, missing]

/-- A text with a content type of its own is read by the reader of this media type. -/
theorem unmarshal_of_specific {mediaType : String} (specific : isGeneric mediaType = false)
    (text : Bytes) : withDefaults.unmarshal mediaType text =
      (withDefaults.lookup mediaType).bind fun reader => reader text := by
  simp only [unmarshal, route, specific, Bool.false_eq_true, if_false]
  rfl

theorem unmarshal_mediaType (kind : Kind) (text : Bytes) :
    withDefaults.unmarshal kind.mediaType text = kind.unmarshal text := by
  rw [unmarshal_of_specific
    (isGeneric_of_isManifestMediaType (isManifestMediaType_mediaType kind)), lookup_mediaType]
  rfl

/-- A text with a content type of its own is read as a manifest of the kind with this media type. -/
theorem unmarshal_eq_ok_iff {mediaType : String} {text : Bytes} {manifest : Manifest}
    (specific : isGeneric mediaType = false) :
    (withDefaults.unmarshal mediaType text).map Prod.fst = .ok manifest ↔
      ∃ kind : Kind, kind.mediaType = mediaType ∧ parse kind text = .ok manifest := by
  cases known : Kind.ofMediaType? mediaType with
  | some kind =>
    obtain rfl := Kind.ofMediaType?_eq_some_iff.mp known
    rw [unmarshal_mediaType, Kind.map_fst_unmarshal]
    constructor
    · exact fun parsed => ⟨kind, rfl, parsed⟩
    · rintro ⟨kind', same, parsed⟩
      cases Kind.mediaType_injective same
      exact parsed
  | none =>
    have foreign (kind : Kind) : mediaType ≠ kind.mediaType := fun same => by
      rw [Kind.ofMediaType?_eq_some_iff.mpr same.symm] at known
      cases known
    rw [unmarshal_of_specific specific, lookup_of_foreign foreign]
    exact ⟨nofun, fun ⟨kind, same, _⟩ => absurd same.symm (foreign kind)⟩

end SchemaRegistry

/-! ## Services -/

namespace ManifestService

/-- A service with the default readers, in which every handler is in charge of its own kind. -/
structure Standard (service : ManifestService) : Prop where
  registry_eq : service.registry = .withDefaults
  kind_eq {kind : Kind} {handler : Handler} (inCharge : service.handlers kind = some handler) :
    handler.kind = kind

theorem Standard.withHandler {service : ManifestService} (standard : service.Standard)
    (handler : Handler) : (service.withHandler handler).Standard := by
  refine ⟨standard.registry_eq, fun {kind other} inCharge => ?_⟩
  simp only [ManifestService.withHandler] at inCharge
  split at inCharge
  · next same =>
    cases inCharge
    exact same.symm
  · exact standard.kind_eq inCharge

/-- Whatever handlers a service gets, it stays a standard one. -/
theorem standard_withHandlers (repository : String) (handlers : List Handler) :
    (withHandlers repository .withDefaults handlers).Standard := by
  have initial : (bare repository .withDefaults).Standard := ⟨rfl, nofun⟩
  rw [withHandlers]
  generalize bare repository .withDefaults = service at initial
  induction handlers generalizing service with
  | nil => exact initial
  | cons handler rest ih => exact ih _ (initial.withHandler handler)

@[simp] theorem repository_withHandlers (repository : String) (registry : SchemaRegistry)
    (handlers : List Handler) :
    (withHandlers repository registry handlers).repository = repository := by
  have kept : (bare repository registry).repository = repository := rfl
  rw [withHandlers]
  generalize bare repository registry = service at kept
  induction handlers generalizing service with
  | nil => exact kept
  | cons handler rest ih => exact ih _ kept

variable {service : ManifestService} {σ ε : Type}

/-- A handler reads what the schema registry reads, and reports that it does. -/
theorem decode_ran (standard : service.Standard) (mediaType : String) (digest : Digest)
    (content : Bytes) (world : World σ) : ∃ output,
    (service.decode mediaType digest content : Action σ ε _).runIn world =
      (.ok ((SchemaRegistry.withDefaults.unmarshal mediaType content).map Prod.fst),
        { world with output }) := by
  rw [decode]
  cases inCharge : (Kind.ofMediaType? mediaType).bind service.handlers with
  | none =>
    rw [standard.registry_eq]
    exact ⟨world.output, rfl⟩
  | some handler =>
    obtain ⟨kind, known, wired⟩ := Option.bind_eq_some_iff.mp inCharge
    obtain rfl := Kind.ofMediaType?_eq_some_iff.mp known
    rw [SchemaRegistry.unmarshal_mediaType, Kind.map_fst_unmarshal, ← standard.kind_eq wired]
    exact ⟨_, rfl⟩

/-- Stored content is read as a manifest of the kind that it was stored as. -/
theorem decode_eq_ok_iff (standard : service.Standard) {mediaType : String}
    (known : isManifestMediaType mediaType = true) {digest : Digest} {content : Bytes}
    {manifest : Manifest} {world : World σ} :
    ((service.decode mediaType digest content : Action σ ε _).runIn world).1 =
        .ok (.ok manifest) ↔
      ∃ kind : Kind, kind.mediaType = mediaType ∧ parse kind content = .ok manifest := by
  obtain ⟨output, ran⟩ := decode_ran (ε := ε) standard mediaType digest content world
  rw [ran, ← SchemaRegistry.unmarshal_eq_ok_iff (isGeneric_of_isManifestMediaType known),
    Except.ok.injEq]

/-- A blob without a media type is no manifest, whatever it is reported as. -/
theorem isManifestMediaType_of_reportedAs {blob : StoredBlob} {descriptor : Descriptor}
    (reported : blob.ReportedAs descriptor) :
    isManifestMediaType descriptor.mediaType = isManifestMediaType blob.mediaType := by
  rcases reported with same | ⟨untyped, unknown⟩
  · rw [same]
  · rw [untyped, unknown]
    decide

theorem decode_readOnly (service : ManifestService) (mediaType : String) (digest : Digest)
    (content : Bytes) :
    ReadOnly (service.decode mediaType digest content : Action σ ε _) := by
  rw [decode]
  split
  · exact (ReadOnly.record _ _ _).bind fun _ => .pure _
  · exact .pure _

theorem get_readOnly [Backend σ] [ReadingBackend σ] (service : ManifestService) (token : Token)
    (digest : Digest) : ReadOnly (service.get token digest : Action σ StorageError Manifest) := by
  apply (Store.statBlob_readOnly token digest).outcome.bind
  intro found
  -- What follows once the blob is known to be a manifest.
  extract_lets rest
  have reads (descriptor : Descriptor) : ReadOnly (rest descriptor) := by
    apply (Store.getBlob_readOnly token digest).bind
    intro content
    apply (ReadOnly.ensureLive token).bind
    intro live
    apply (decode_readOnly service _ digest content).bind
    intro decoded
    cases decoded with
    | ok manifest => exact .pure manifest
    | error source => exact .throw _
  split
  · split
    · exact (ReadOnly.pure _).bind reads
    · exact (ReadOnly.throw _).bind reads
  · exact (ReadOnly.throw _).bind reads
  · exact (ReadOnly.throw _).bind reads

variable [Backend σ] [BlobBackend σ] {world : World σ} {digest : Digest} {blob : StoredBlob}

section Calm

variable (sound : BlobBackend.Sound world.store) (calm : world.interference = .none)
  (token : Token) (there : BlobBackend.blobs world.store digest = some blob)

include sound calm there

/-- A blob counts as a manifest when it was stored under a manifest media type. -/
theorem exists?_of_calm :
    ((exists? token digest).runIn world).1 = .ok (isManifestMediaType blob.mediaType) := by
  obtain ⟨descriptor, ran, reported⟩ := BlobBackend.statBlob_of_some sound calm token there
  simp only [exists?, runIn_bind, runIn_outcome, ran, runIn_pure,
    isManifestMediaType_of_reportedAs reported]

/-- A blob is read as a manifest of the kind with its media type. -/
theorem get_eq_ok_iff (standard : service.Standard) {manifest : Manifest} :
    ((service.get token digest).runIn world).1 = .ok manifest ↔
      ∃ kind : Kind, kind.mediaType = blob.mediaType ∧ parse kind blob.bytes = .ok manifest := by
  obtain ⟨descriptor, ran, reported⟩ := BlobBackend.statBlob_of_some sound calm token there
  have recognised := isManifestMediaType_of_reportedAs reported
  obtain ⟨store_eq, interference_eq⟩ := Store.statBlob_readOnly token digest world
  simp only [get, runIn_bind, runIn_outcome, ran, runIn_ite]
  generalize ((Store.statBlob token digest).runIn world).2 = found at store_eq interference_eq ⊢
  cases known : isManifestMediaType blob.mediaType with
  | false =>
    simp only [recognised, known, Bool.false_eq_true, if_false, runIn_throw]
    constructor
    · intro ran
      cases ran
    · rintro ⟨kind, same, -⟩
      rw [← same, isManifestMediaType_mediaType] at known
      cases known
  | true =>
    have mediaType_eq : descriptor.mediaType = blob.mediaType := by
      rcases reported with same | ⟨untyped, -⟩
      · exact same
      · rw [untyped] at known
        exact absurd known (by decide)
    rw [← store_eq] at sound there
    rw [← interference_eq] at calm
    have content := BlobBackend.getBlob_of_some sound calm token there
    have stillCalm := ((Store.getBlob_readOnly token digest found).2).trans calm
    simp only [known, if_true, runIn_pure, mediaType_eq]
    generalize (Store.getBlob token digest).runIn found = outcome at content stillCalm ⊢
    obtain ⟨answer, read⟩ := outcome
    obtain rfl : answer = .ok blob.bytes := content
    replace stillCalm : read.interference = .none := stillCalm
    obtain ⟨looks, looked⟩ := runIn_ensureLive_of_calm stillCalm token
    have decoded (world : World σ) :
        ((service.decode blob.mediaType digest blob.bytes : Action σ StorageError _).runIn world).1 =
          .ok (.ok manifest) ↔ _ := decode_eq_ok_iff standard known
    simp only [looked]
    rw [← decoded { read with looks }]
    generalize (service.decode blob.mediaType digest blob.bytes).runIn _ = outcome
    obtain ⟨error | error | manifest', ended⟩ := outcome
    · simp
    · simp
    · simp

end Calm

/-- With nothing in the way, a blob with the media type of a kind is read as a manifest of the kind. -/
theorem get_answers (standard : service.Standard) {store : σ} (sound : BlobBackend.Sound store)
    (there : BlobBackend.blobs store digest = some blob) {kind : Kind}
    (typed : blob.mediaType = kind.mediaType) {manifest : Manifest}
    (parsed : parse kind blob.bytes = .ok manifest) (token : Token) :
    Answers store (service.get token digest) (.ok manifest) := by
  apply (get_readOnly service token digest).answers
  rintro world rfl calm
  exact (get_eq_ok_iff sound calm token there standard).mpr ⟨kind, typed.symm, parsed⟩

end ManifestService

end ArtifactRegistry
