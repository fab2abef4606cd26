import ArtifactRegistry.Proofs.Referrers.Lookup
import ArtifactRegistry.Proofs.Storage.FileLookups

/-! # Manifests are authentic

What a store in files returns as a manifest is what its digest names, whatever the files hold and
whatever interferes: the data hash to the digest under the digest's own algorithm, the media type on
file is that of a kind of manifests, and the manifest is what the data read as a document of this
kind, `get_authentic`.
-/

namespace ArtifactRegistry

open Manifest ArtifactRegistry.Action

/-- Bytes that are read as a text are its encoding. -/
theorem Bytes.toText?_eq_some_iff {bytes : Bytes} {text : String} :
    toText? bytes = some text ↔ bytes = ofText text := by
  constructor
  · intro decoded
    simp only [toText?, String.fromUTF8?] at decoded
    split at decoded
    · cases decoded
      simp [ofText, String.fromUTF8]
    · cases decoded
  · rintro rfl
    exact toText?_ofText text

namespace ManifestService

variable {σ : Type} [Backend σ] [LookupBackend σ] {service : ManifestService} {token : Token}
  {digest : Digest} {manifest : Manifest} {world after : World σ}

/-- A manifest that is returned was reported under the media type of a kind, and is what the content
reads as a document of this kind. -/
theorem get_ran [ReadingBackend σ] (standard : service.Standard)
    (ran : (service.get token digest).runIn world = (.ok manifest, after)) :
    ∃ descriptor content kind,
      Answers world.store (Store.statBlob token digest) (.ok descriptor) ∧
      Answers world.store (Store.getBlob token digest) (.ok content) ∧
      Kind.mediaType kind = descriptor.mediaType ∧ parse kind content = .ok manifest := by
  obtain ⟨found, asked, asking, ran⟩ := runIn_bind_eq_ok_iff.mp ran
  have unchanged : asked.store = world.store :=
    (Store.statBlob_readOnly token digest).outcome.store_eq asking
  rw [runIn_outcome] at asking
  rcases found with error | descriptor
  · cases error <;> cases ran
  have reported : (Store.statBlob token digest).runIn world = (.ok descriptor, asked) := by
    obtain ⟨result_eq, world_eq⟩ := Prod.mk.inj asking
    exact Prod.ext (Except.ok.inj result_eq) world_eq
  cases known : isManifestMediaType descriptor.mediaType with
  | false =>
    simp only [known] at ran
    cases ran
  | true =>
  simp only [known, if_true, pure_bind, runIn_bind_eq_ok_iff] at ran
  obtain ⟨content, read, reading, ⟨⟩, live, living, decoded, last, decoding, ended⟩ := ran
  cases decoded with
  | error source => cases ended
  | ok manifest' =>
  cases ended
  obtain ⟨kind, typed, parsed⟩ :=
    (decode_eq_ok_iff standard known).mp (congrArg Prod.fst decoding)
  obtain ⟨described, -⟩ := (Store.statBlob_consistent token digest).answers_of_ok reported
  obtain ⟨loaded, -⟩ := (Store.getBlob_consistent token digest).answers_of_ok reading
  exact ⟨descriptor, content, kind, described, unchanged ▸ loaded, typed, parsed⟩

end ManifestService

namespace FileStore

variable {store : FileStore}

/-- What is described under the media type of a kind has this media type on file. -/
theorem read_of_typed {names : FileTree.Path} {kind : Kind}
    (typed : typed (textOf (store.read names)) = .ok kind.mediaType) :
    store.read names = .ok (Bytes.ofText kind.mediaType) := by
  have known : unknownMediaType ≠ kind.mediaType := by cases kind <;> decide
  cases held : store.read names with
  | error error =>
    rw [held] at typed
    cases error
    case notFound => exact absurd (Except.ok.inj typed) known
    all_goals cases typed
  | ok bytes =>
    rw [held] at typed
    cases decoded : Bytes.toText? bytes with
    | none =>
      simp only [textOf, bind, Except.bind, decoded] at typed
      cases typed
    | some text =>
      simp only [textOf, bind, Except.bind, decoded] at typed
      have text_eq : (if text = "" then unknownMediaType else text) = kind.mediaType :=
        Except.ok.inj typed
      split at text_eq
      · exact absurd text_eq known
      · rw [Bytes.toText?_eq_some_iff.mp decoded, text_eq]

/-- Whatever the files hold and whatever interferes, a manifest that is returned for a digest is
authentic: the digest is valid, the data on file hash to it under its own algorithm and are the
payload of the manifest, the media type on file is that of a kind of manifests, and the manifest is
what the data read as a document of this kind. -/
theorem get_authentic (repository : String) (handlers : List Handler) {token : Token}
    {digest : Digest} {manifest : Manifest} {world after : World FileStore}
    (ran : ((ManifestService.withHandlers repository .withDefaults handlers).get token digest).runIn
      world = (.ok manifest, after)) :
    ∃ algorithm contents kind,
      digest.validate = .ok algorithm ∧
      world.store.read ["blobs", algorithm.name, digest.hex, dataFile] = .ok contents ∧
      Digest.compute algorithm contents = digest ∧
      world.store.read ["blobs", algorithm.name, digest.hex, mediaTypeFile] =
        .ok (Bytes.ofText (Kind.mediaType kind)) ∧
      Manifest.parse kind contents = .ok manifest ∧
      manifest.payload.map Payload.bytes = .ok contents := by
  have standard := ManifestService.standard_withHandlers repository handlers
  obtain ⟨descriptor, contents, kind, described, returned, typed, parsed⟩ :=
    ManifestService.get_ran standard ran
  have described := (statBlob_answers world.store token digest).unique described
  have returned := (getBlob_answers world.store token digest).unique returned
  obtain ⟨names, named, data, verified⟩ := loaded_eq_ok_iff.mp returned
  obtain ⟨algorithm, validates, rfl⟩ := blobNames_eq_ok_iff.mp named
  obtain ⟨_, named', mediaType⟩ := described_eq_ok described
  cases named.symm.trans named'
  obtain ⟨_, validates', computed⟩ := Digest.verifies_eq_true_iff.mp verified
  cases validates.symm.trans validates'
  obtain ⟨-, -, -, payload, kept, rfl⟩ := parse_eq_ok_iff.mp parsed
  refine ⟨algorithm, _, kind, validates, data, computed, read_of_typed (typed ▸ mediaType), parsed, ?_⟩
  rw [Manifest.payload, kept]
  rfl

/-- A bare index, stored by hand under another algorithm than the one that payloads are stored
under. -/
theorem get_authentic_sha512 : ∃ (digest : Digest) (world after : World FileStore) (manifest : Manifest)
    (contents : Bytes) (kind : Kind),
    ((ManifestService.withHandlers "library" .withDefaults []).get .callers digest).runIn world =
      (.ok manifest, after) ∧
    digest.validate = .ok .sha512 ∧ Digest.compute .sha512 contents = digest ∧
    Manifest.parse kind contents = .ok manifest := by
  let text : Bytes := (Variant.index { mediaType := Kind.index.mediaType }).toJson.canonical
  let digest := Digest.compute .sha512 text
  let store : FileStore := ⟨"", .directory [("blobs", .directory [("sha512", .directory
    [(digest.hex, .directory [(dataFile, .file text),
      (mediaTypeFile, .file (Bytes.ofText Kind.index.mediaType))])])])]⟩
  have succeeds : (((ManifestService.withHandlers "library" .withDefaults []).get .callers digest).runIn
      { store }).1.isOk = true := by decide +kernel
  obtain ⟨manifest, after, ran⟩ := exists_ended_of_isOk succeeds
  have known := Digest.validate_compute .sha512 text
  obtain ⟨_, contents, kind, valid, -, computed, -, parsed, -⟩ := get_authentic "library" [] ran
  cases known.symm.trans valid
  exact ⟨digest, _, after, manifest, contents, kind, ran, known, computed, parsed⟩

end FileStore

end ArtifactRegistry
