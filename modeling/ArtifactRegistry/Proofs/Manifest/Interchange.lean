import ArtifactRegistry.Proofs.Manifest.Linking
import ArtifactRegistry.Proofs.Manifest.Lookup
import Mathlib.Data.Fintype.OfMap

/-! # Manifests on two stores

Two stores of any kind that report and return the same blobs are the same to a manifest service: a
lookup has the same answer on both, and a put ends with the same digest or the same error and leaves
stores that are alike again. The second store may only differ where its medium fails. What the stores
must have in common is `SameBlobs`, and what puts must keep up is `Interchangeable`.
-/

namespace ArtifactRegistry

open Manifest ArtifactRegistry.Action

/-! ## Failures of the medium -/

/-- A reference could not be checked because the medium has failed. -/
def VerificationError.OfMedium (failure : VerificationError) : Prop :=
  ∃ digest source, failure = .lookupFailed digest (StorageError.medium source).message

instance : Fintype MediumError :=
  .ofList [.notFound, .alreadyExists, .notDirectory, .isDirectory, .nameTooLong, .zeroByteInName,
    .invalidText, .injected] fun source => by cases source <;> decide

instance : DecidablePred VerificationError.OfMedium
  | .lookupFailed digest reason =>
    decidable_of_iff (∃ source, reason = (StorageError.medium source).message)
      ⟨fun ⟨source, same⟩ => ⟨digest, source, same ▸ rfl⟩,
        fun ⟨_, source, same⟩ => ⟨source, (VerificationError.lookupFailed.inj same).2⟩⟩
  | .invalidDigest _ _ | .blobUnknown _ | .manifestUnknown _ => .isFalse nofun

/-- A put was stopped by a failure of the medium, or could not check a reference because of one. -/
inductive PutError.OfMedium : PutError → Prop
  | storage (source : MediumError) : OfMedium (.storage (.medium source))
  | verification {failures : List VerificationError} {failure : VerificationError}
      (member : failure ∈ failures) (ofMedium : failure.OfMedium) : OfMedium (.verification failures)

instance : DecidablePred PutError.OfMedium
  | .storage error =>
    decidable_of_iff error.OfMedium
      ⟨fun ⟨source, same⟩ => same ▸ .storage source, fun | .storage source => ⟨source, rfl⟩⟩
  | .verification failures =>
    decidable_of_iff (∃ failure ∈ failures, failure.OfMedium)
      ⟨fun ⟨_, member, ofMedium⟩ => .verification member ofMedium,
        fun | .verification member ofMedium => ⟨_, member, ofMedium⟩⟩
  | .noHandler _ | .typeMismatch _ _ | .unrecognizedMediaType _ _ | .manifest _ | .cancelled =>
    .isFalse nofun

theorem PutError.ofMedium_ofStorage {error : StorageError} (ofMedium : error.OfMedium) :
    (PutError.ofStorage error).OfMedium := by
  obtain ⟨source, rfl⟩ := ofMedium
  exact .storage source

/-! ## Blobs -/

/-- What a descriptor is shown as. Files have no media type for a blob that was put without one. -/
inductive Descriptor.ShownAs (descriptor : Descriptor) : Descriptor → Prop
  | same : ShownAs descriptor descriptor
  | untyped (untyped : descriptor.mediaType = "") :
      ShownAs descriptor { descriptor with mediaType := FileStore.unknownMediaType }

namespace Descriptor.ShownAs

variable {descriptor shown : Descriptor}

/-- What has no media type is no manifest, whatever it is shown as. -/
theorem isManifestMediaType_eq (shownAs : descriptor.ShownAs shown) :
    isManifestMediaType shown.mediaType = isManifestMediaType descriptor.mediaType := by
  cases shownAs with
  | same => rfl
  | untyped untyped =>
    change isManifestMediaType FileStore.unknownMediaType = _
    rw [untyped]
    decide

theorem eq_of_manifest (shownAs : descriptor.ShownAs shown)
    (known : isManifestMediaType descriptor.mediaType = true) : shown = descriptor := by
  cases shownAs with
  | same => rfl
  | untyped untyped =>
    rw [untyped] at known
    exact absurd known (by decide)

/-- Only the media type can be shown differently. -/
theorem with_mediaType_eq (shownAs : descriptor.ShownAs shown) (mediaType : String)
    (artifactType : Option String) :
    { shown with mediaType, artifactType } = { descriptor with mediaType, artifactType } := by
  cases shownAs with
  | same => rfl
  | untyped untyped => rfl

end Descriptor.ShownAs

variable {σ τ : Type} [Backend σ] [Backend τ]

/-- Two stores report and return the same blobs, unless the medium of the second fails. -/
structure SameBlobs (store : σ) (store' : τ) : Prop where
  statBlob {digest : Digest} (valid : digest.IsValid) (token : Token) :
    (∃ error, Answers store' (Store.statBlob token digest) (.error error) ∧ error.OfMedium) ∨
      (Answers store (Store.statBlob token digest) (.error (.blobUnknown digest)) ∧
        Answers store' (Store.statBlob token digest) (.error (.blobUnknown digest))) ∨
      ∃ stored shown, Answers store (Store.statBlob token digest) (.ok stored) ∧
        Answers store' (Store.statBlob token digest) (.ok shown) ∧ stored.digest = digest ∧
        stored.ShownAs shown
  getBlob {digest : Digest} (valid : digest.IsValid) (token : Token) :
    Matches store store' StorageError.OfMedium Eq (Store.getBlob token digest)
      (Store.getBlob token digest)

section Lookups

variable {store : σ} {store' : τ} (same : SameBlobs store store') {digest : Digest}
  (valid : digest.IsValid) (token : Token)

include same valid

theorem SameBlobs.statBlob_matches :
    Matches store store' StorageError.OfMedium
      (fun stored shown => stored.digest = digest ∧ stored.ShownAs shown)
      (Store.statBlob token digest) (Store.statBlob token digest) := by
  obtain ⟨error, failed, ofMedium⟩ | ⟨unknown, unknown'⟩ | ⟨stored, shown, found, found', shownAs⟩ :=
    same.statBlob valid token
  · exact .of_lost failed ofMedium
  · exact .of_answers unknown unknown' (.error _)
  · exact .of_answers found found' (.ok shownAs)

/-- Both stores know the same manifests. -/
theorem ManifestService.exists?_same :
    (∃ error, Answers store' (exists? token digest) (.error error) ∧ error.OfMedium) ∨
      ∃ known, Answers store (exists? token digest) (.ok known) ∧
        Answers store' (exists? token digest) (.ok known) := by
  obtain ⟨_, failed, source, rfl⟩ | ⟨unknown, unknown'⟩ | ⟨stored, shown, found, found', -, shownAs⟩ :=
    same.statBlob valid token
  · exact .inl ⟨_, failed.outcome.bind_ok (.throw _), source, rfl⟩
  · exact .inr ⟨false, unknown.outcome.bind_ok (.pure false), unknown'.outcome.bind_ok (.pure false)⟩
  · refine .inr ⟨_, found.outcome.bind_ok (.pure _), ?_⟩
    rw [← shownAs.isManifestMediaType_eq]
    exact found'.outcome.bind_ok (.pure _)

omit same valid [Backend σ] [Backend τ] in
/-- What stored content is read as does not depend on the store. -/
theorem ManifestService.decode_answers {ε : Type} (service : ManifestService) (mediaType : String)
    (digest : Digest) (content : Bytes) : ∃ decoded, ∀ {σ : Type} (store : σ),
      Answers store (service.decode mediaType digest content : Action σ ε _) (.ok decoded) := by
  simp only [decode]
  cases (Kind.ofMediaType? mediaType).bind service.handlers with
  | none => exact ⟨_, fun _ => .pure _⟩
  | some handler => exact ⟨_, fun _ => (Answers.record _ _ _).bind_ok (.pure _)⟩

/-- Both stores have the same manifests. -/
theorem ManifestService.get_matches (service : ManifestService) :
    Matches store store' StorageError.OfMedium Eq (service.get token digest)
      (service.get token digest) := by
  apply (same.statBlob_matches valid token).outcome_bind
  · rintro _ ⟨source, rfl⟩
    exact ⟨_, (Answers.throw _).bind_error, source, rfl⟩
  · rintro _ _ (error | @⟨stored, shown, -, shownAs⟩)
    · cases error
      all_goals exact .throw_bind _
    have recognised := shownAs.isManifestMediaType_eq
    by_cases known : isManifestMediaType stored.mediaType = true
    · rw [known] at recognised
      simp only [known, recognised, if_true, pure_bind]
      rw [shownAs.eq_of_manifest known]
      refine (same.getBlob valid token).bind ?_
      rintro content _ rfl
      apply Matches.bind_of_ok (.ensureLive token) (.ensureLive token)
      obtain ⟨decoded, answers⟩ := decode_answers service stored.mediaType digest content
      apply Matches.bind_of_ok (answers store) (answers store')
      cases decoded with
      | ok manifest => exact .pure rfl
      | error source => exact .throw _
    · simp only [recognised, known, Bool.false_eq_true, if_false]
      exact .throw_bind _

end Lookups

/-! ## Verification -/

section Verification

variable {store : σ} {store' : τ} (same : SameBlobs store store') (token : Token)

include same

theorem Manifest.Dependency.failure?_same (dependency : Dependency) : ∃ failure,
    Answers store' (dependency.failure? ManifestService.exists? token) (.ok failure) ∧
      ((∃ lost, failure = some lost ∧ lost.OfMedium) ∨
        Answers store (dependency.failure? ManifestService.exists? token) (.ok failure)) := by
  simp only [Dependency.failure?]
  cases validates : dependency.descriptor.digest.validate with
  | error reason => exact ⟨_, .pure _, .inr (.pure _)⟩
  | ok algorithm =>
  have valid : dependency.descriptor.digest.IsValid := ⟨algorithm, validates⟩
  cases dependency.kind with
  | manifest =>
    obtain ⟨_, failed, source, rfl⟩ | ⟨known, found, found'⟩ :=
      ManifestService.exists?_same same valid token
    · exact ⟨_, failed.outcome.bind_ok (.pure _), .inl ⟨_, rfl, _, source, rfl⟩⟩
    · cases known with
      | true => exact ⟨_, found'.outcome.bind_ok (.pure _), .inr (found.outcome.bind_ok (.pure _))⟩
      | false => exact ⟨_, found'.outcome.bind_ok (.pure _), .inr (found.outcome.bind_ok (.pure _))⟩
  | blob =>
    obtain ⟨_, failed, source, rfl⟩ | ⟨unknown, unknown'⟩ | ⟨stored, shown, found, found', -⟩ :=
      same.statBlob valid token
    · exact ⟨_, failed.outcome.bind_ok (.pure _), .inl ⟨_, rfl, _, source, rfl⟩⟩
    · exact ⟨_, unknown'.outcome.bind_ok (.pure _), .inr (unknown.outcome.bind_ok (.pure _))⟩
    · exact ⟨_, found'.outcome.bind_ok (.pure _), .inr (found.outcome.bind_ok (.pure _))⟩

/-- Both stores lack the same dependencies. -/
theorem Manifest.failures_same (dependencies : List Dependency) : ∃ found,
    Answers store' (failures ManifestService.exists? token dependencies) (.ok found) ∧
      ((∃ lost ∈ found, lost.OfMedium) ∨
        Answers store (failures ManifestService.exists? token dependencies) (.ok found)) := by
  induction dependencies with
  | nil => exact ⟨[], .pure [], .inr (.pure [])⟩
  | cons dependency rest ih =>
    obtain ⟨failure, first', head⟩ := dependency.failure?_same same token
    obtain ⟨others, rest', tail⟩ := ih
    refine ⟨failure.toList ++ others, ?_, ?_⟩
    · exact (Answers.isCancelled token).bind_ok (first'.bind_ok (rest'.bind_ok (.pure _)))
    · rcases head with ⟨lost, rfl, ofMedium⟩ | first
      · exact .inl ⟨lost, List.mem_cons_self, ofMedium⟩
      rcases tail with ⟨lost, member, ofMedium⟩ | rest
      · exact .inl ⟨lost, List.mem_append_right _ member, ofMedium⟩
      · exact .inr ((Answers.isCancelled token).bind_ok (first.bind_ok (rest.bind_ok (.pure _))))

theorem Manifest.verifyDependencies_matches (variant : Variant) :
    Matches store store' PutError.OfMedium Eq
      (verifyDependencies ManifestService.exists? token variant)
      (verifyDependencies ManifestService.exists? token variant) := by
  obtain ⟨found, looked', alternatives⟩ := failures_same same token variant.dependencies
  -- On either store, what was found decides the rest.
  have ends {σ : Type} [Backend σ] {store : σ}
      (looked : Answers store (failures ManifestService.exists? token variant.dependencies)
        (.ok found)) :
      Answers store (verifyDependencies ManifestService.exists? token variant)
        (if found = [] then .ok () else .error (.verification found)) := by
    refine looked.bind_ok ?_
    cases found with
    | nil => exact .pure ()
    | cons failure rest => exact (Answers.record _ _ _).bind_ok (.throw _)
  rcases alternatives with ⟨lost, member, ofMedium⟩ | looked
  · have failed := ends looked'
    rw [if_neg (List.ne_nil_of_mem member)] at failed
    exact .of_lost failed (.verification member ofMedium)
  · refine .of_answers (ends looked) (ends looked') ?_
    split
    · exact .ok rfl
    · exact .error _

/-- Both stores let the same manifests pass. -/
theorem Handler.check_matches (kind : Manifest.Kind) (manifest : Manifest) (skip : Bool) :
    Matches store store' PutError.OfMedium Eq
      (check kind ManifestService.exists? token manifest skip)
      (check kind ManifestService.exists? token manifest skip) := by
  rw [check, check]
  by_cases otherKind : manifest.kind ≠ kind
  · rw [if_pos otherKind, if_pos otherKind]
    exact .throw_bind _
  rw [if_neg otherKind, if_neg otherKind]
  cases manifest.variant.mediaTypeMatches with
  | false => exact .throw_bind _
  | true =>
    cases skip with
    | true => exact .pure rfl
    | false => exact verifyDependencies_matches same token manifest.variant

end Verification

/-! ## Puts -/

/-- A relation between stores that puts in a repository keep up. Stores that are alike have the same
blobs; what is put or linked on both leaves them alike, unless the medium of the second fails. -/
structure Interchangeable (payloads : Set Bytes) (repository : String) (Alike : σ → τ → Prop) : Prop
    where
  sameBlobs {store : σ} {store' : τ} (alike : Alike store store') : SameBlobs store store'
  putBlob {payload : Bytes} (member : payload ∈ payloads) (token : Token) (mediaType : String) :
    Tracks Alike StorageError.OfMedium
      (fun stored stored' => stored.digest = Digest.ofBytes payload ∧ stored'.digest = stored.digest)
      (Store.putBlob token mediaType payload) (Store.putBlob token mediaType payload)
  addLink {subject digest : Digest} {path : String}
    (derived : referrersLinkPath repository subject = .ok path) (valid : digest.IsValid) :
    Tracks Alike StorageError.OfMedium Eq (Store.addLink .fresh path digest)
      (Store.addLink .fresh path digest)

section Puts

variable {payloads : Set Bytes} {repository : String} {Alike : σ → τ → Prop}
  (alikes : Interchangeable payloads repository Alike) (token : Token) {manifest : Manifest}
  (member : ∀ payload, manifest.payload = .ok payload → payload.bytes ∈ payloads)

include alikes member

/-- Both stores keep the payload of a manifest under the same digest. -/
theorem Handler.store_tracks (kind : Manifest.Kind) :
    Tracks Alike PutError.OfMedium (fun digest digest' => digest.IsValid ∧ digest' = digest)
      (store kind token manifest) (store kind token manifest) := by
  apply Tracks.bind_of_ok (fun _ => .isCancelled token) (fun _ => .isCancelled token)
  cases sealed : manifest.payload with
  | error source => exact .of_matches fun _ _ _ => .throw _
  | ok payload =>
    apply (alikes.putBlob (member payload sealed) token manifest.kind.mediaType).outcome_bind
    · rintro _ ⟨source, rfl⟩ world
      simp only [runIn_bind, runIn_record, runIn_throw]
      exact ⟨_, _, rfl, .storage source⟩
    · rintro _ _ (error | ⟨digest_eq, same⟩)
      · exact .bind_of_ok (fun _ => .record _ _ _) (fun _ => .record _ _ _)
          (.of_matches fun _ _ _ => .throw _)
      · refine .of_matches fun _ _ _ => .pure ⟨?_, same⟩
        rw [digest_eq]
        exact Digest.isValid_ofBytes _

omit alikes member [Backend σ] [Backend τ] in
/-- A link path is that of the subject. -/
theorem Handler.derived_of_linkPath? {path : String}
    (linked : linkPath? repository manifest = .ok (some path)) :
    ∃ subject, referrersLinkPath repository subject = .ok path := by
  rw [linkPath?] at linked
  split at linked
  · cases linked
  · next about _ =>
    obtain ⟨path', derived, ⟨⟩⟩ := map_eq_ok_iff.mp linked
    exact ⟨about.digest, derived⟩

theorem Handler.put_tracks {handler : Handler}
    (wired : ∀ other, handler = .referrers other → manifest.kind = .artifact → other = repository)
    (skip : Bool) :
    Tracks Alike PutError.OfMedium (fun digest digest' => digest.IsValid ∧ digest' = digest)
      (handler.put ManifestService.exists? token manifest skip)
      (handler.put ManifestService.exists? token manifest skip) := by
  have checks (kind : Manifest.Kind) : Tracks Alike PutError.OfMedium Eq
      (check kind ManifestService.exists? token manifest skip)
      (check kind ManifestService.exists? token manifest skip) :=
    .of_matches fun _ _ alike => check_matches (alikes.sameBlobs alike) token kind manifest skip
  cases handler with
  | plain kind =>
    apply Tracks.bind_of_ok (fun _ => .record _ _ _) (fun _ => .record _ _ _)
    exact (checks kind).bind fun _ _ _ => store_tracks alikes token member kind
  | referrers other =>
    apply Tracks.bind_of_ok (fun _ => .record _ _ _) (fun _ => .record _ _ _)
    by_cases artifact : manifest.kind = .artifact
    swap
    · rw [check, check, if_pos artifact, if_pos artifact]
      exact .of_matches fun _ _ _ => .of_answers (Answers.throw _).bind_error.bind_error
        (Answers.throw _).bind_error.bind_error (.error _)
    obtain rfl := wired other rfl artifact
    apply (checks .artifact).bind
    rintro _ _ -
    cases linked : linkPath? other manifest with
    | error error => exact .of_matches fun _ _ _ => .throw _
    | ok path? =>
    apply (store_tracks alikes token member .artifact).bind
    rintro digest _ ⟨valid, rfl⟩
    cases path? with
    | none => exact .of_matches fun _ _ _ => .pure ⟨valid, rfl⟩
    | some path =>
      obtain ⟨subject, derived⟩ := derived_of_linkPath? linked
      have links := (alikes.addLink derived valid).withErrors fun _ => PutError.ofMedium_ofStorage
      refine links.bind fun _ _ _ => ?_
      apply Tracks.bind_of_ok (fun _ => .record _ _ _) (fun _ => .record _ _ _)
      exact .of_matches fun _ _ _ => .pure ⟨valid, rfl⟩

/-- On both stores, a put ends with the same digest or the same error. -/
theorem ManifestService.put_tracks {service : ManifestService}
    (artifactsIn : service.ArtifactsIn repository) (skip : Bool) :
    Tracks Alike PutError.OfMedium Eq (service.put token manifest skip)
      (service.put token manifest skip) := by
  rw [put, put]
  cases inCharge : service.handlers manifest.kind with
  | none => exact .of_matches fun _ _ _ => .throw _
  | some handler =>
    have wired (other : String) (handles : handler = .referrers other)
        (artifact : manifest.kind = .artifact) : other = repository := by
      rw [artifact] at inCharge
      cases handles.symm.trans (artifactsIn handler inCharge)
      rfl
    apply (Handler.put_tracks alikes token member wired skip).bind
    rintro digest _ ⟨-, rfl⟩
    apply Tracks.bind_of_ok (fun _ => .record _ _ _) (fun _ => .record _ _ _)
    exact .of_matches fun _ _ _ => .pure rfl

end Puts

end ArtifactRegistry
