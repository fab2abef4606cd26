import ArtifactRegistry.Proofs.Referrers.Listing
import ArtifactRegistry.Proofs.Referrers.Lookup

/-! # When referrers can be listed

A put does not look at the annotations of an artifact, so one artifact with a malformed creation time
makes the referrers of its subject unlistable, `enumerate_fails_by_annotation`. In a store that only
manifests were put into, nothing else does: every linked digest has a blob, and every blob is one of the
manifests that were put, `AllReadable`. So a listing succeeds, or it fails with the creation time of an
artifact that a client put, `enumerate_available`.
-/

namespace ArtifactRegistry

open Manifest ArtifactRegistry.Action

/-! ## Every blob is a manifest -/

namespace MemoryStore

variable {events past : List Event} {store after : MemoryStore} {manifest : Manifest}
  {payload : Payload}

/-- A manifest with this digest was put, and its bytes are read back as the manifest. The put may have
failed since. -/
structure WasPut (events : List Event) (digest : Digest) (manifest : Manifest) (payload : Payload) :
    Prop where
  happened : ∃ skip result, .manifestPut manifest skip result ∈ events
  payload_eq : manifest.payload = .ok payload
  digest_eq : payload.digest = digest
  reread : parse manifest.kind payload.bytes = .ok manifest

theorem WasPut.mono {digest : Digest} (put : WasPut past digest manifest payload) (event : Event) :
    WasPut (past ++ [event]) digest manifest payload := by
  obtain ⟨⟨skip, result, happened⟩, payload_eq, digest_eq, reread⟩ := put
  exact ⟨⟨skip, result, List.mem_append_left _ happened⟩, payload_eq, digest_eq, reread⟩

/-- Blobs are manifests that were put, and every link leads to a blob. -/
structure AllReadable (events : List Event) (store : MemoryStore) : Prop where
  blob {digest : Digest} {blob : StoredBlob} (there : store.blob? digest = some blob) :
    ∃ manifest payload, WasPut events digest manifest payload ∧
      blob = ⟨manifest.kind.mediaType, payload.bytes⟩
  member {path : String} {digest : Digest} (linked : digest ∈ store.members path) :
    ∃ blob, store.blob? digest = some blob

namespace AllReadable

theorem empty : AllReadable [] {} := ⟨nofun, nofun⟩

theorem append (readable : AllReadable past store) (event : Event) :
    AllReadable (past ++ [event]) store := by
  refine ⟨fun there => ?_, readable.member⟩
  obtain ⟨manifest, payload, put, blob_eq⟩ := readable.blob there
  exact ⟨manifest, payload, put.mono event, blob_eq⟩

/-- A payload that is kept is that of a manifest that is put just now. -/
theorem put (readable : AllReadable past store) (put : WasPut past payload.digest manifest payload) :
    AllReadable past (store.put manifest.kind.mediaType payload.bytes) := by
  refine ⟨fun {digest blob} there => ?_, fun {path digest} linked => ?_⟩
  · rw [blob?_put] at there
    split at there
    · next same =>
      -- Under the digest of the payload, an older blob stays.
      cases before : store.blob? digest with
      | some old =>
        rw [before] at there
        cases there
        exact readable.blob before
      | none =>
        rw [before] at there
        cases there
        exact ⟨manifest, payload, same ▸ put, rfl⟩
    · exact readable.blob there
  · rw [members_put] at linked
    obtain ⟨blob, there⟩ := readable.member linked
    exact ⟨blob, blob?_put_of_some there⟩

/-- A link to a blob keeps it so. -/
theorem addLink (readable : AllReadable past store) {digest : Digest} {blob : StoredBlob}
    (there : store.blob? digest = some blob) (path : String) :
    AllReadable past (store.addLink path digest) := by
  refine ⟨fun there => ?_, fun {path digest} linked => ?_⟩
  · rw [blob?_addLink] at there
    exact readable.blob there
  · rw [blob?_addLink]
    rcases mem_members_addLink.mp linked with before | ⟨-, rfl⟩
    · exact readable.member before
    · exact ⟨blob, there⟩

/-- Serving a put of a manifest keeps it so. -/
theorem serve {call : Call} (puts : ∃ manifest skip, call.request = .putManifest manifest skip)
    (obtained : call.request.Obtained) (past : List Event) (store : MemoryStore)
    (readable : AllReadable past store) :
    AllReadable (past ++ [(call.serve store).1]) (call.serve store).2 := by
  obtain ⟨service, request, interference⟩ := call
  obtain ⟨manifest, skip, request_eq⟩ := puts
  cases request_eq
  simp only [Call.serve]
  generalize ran : (service.put (σ := MemoryStore) .callers manifest skip).runIn _ = outcome
  obtain ⟨result, ended⟩ := outcome
  have effect := put_effect ran
  have readable := readable.append (.manifestPut manifest skip result)
  have wasPut {handler : Handler} {payload : Payload} {path? : Option String}
      (accepts : handler.Accepts manifest payload path?) :
      WasPut (past ++ [.manifestPut manifest skip result]) payload.digest manifest payload :=
    ⟨⟨skip, result, List.mem_append_right _ (List.mem_singleton_self _)⟩, accepts.payload_eq, rfl,
      obtained.reread accepts.payload_eq accepts.mediaTypeMatches⟩
  generalize ended.store = after at effect
  cases effect with
  | refused error => exact readable
  | stored inCharge accepts => exact readable.put (wasPut accepts)
  | unlinked error inCharge accepts => exact readable.put (wasPut accepts)
  | @linked handler payload path inCharge accepts =>
    have there : (store.put manifest.kind.mediaType payload.bytes).blob? payload.digest = some _ :=
      (blob?_put _ _ _).trans (if_pos rfl)
    exact (readable.put (wasPut accepts)).addLink there path

theorem serveAll {calls : List Call}
    (puts : ∀ call ∈ calls, ∃ manifest skip, call.request = .putManifest manifest skip)
    (obtained : ∀ call ∈ calls, call.request.Obtained) :
    AllReadable (Call.serveAll ({} : MemoryStore) calls).1 (Call.serveAll ({} : MemoryStore) calls).2 :=
  Call.serveAll_preserves
    (fun call called => AllReadable.serve (puts call called) (obtained call called)) [] empty

/-- What is linked is found as a manifest that was put. -/
theorem get_answers (readable : AllReadable events store) {service : ManifestService}
    (standard : service.Standard) {path : String} {digest : Digest}
    (linked : digest ∈ store.members path) (token : Token) :
    ∃ manifest payload, WasPut events digest manifest payload ∧
      Answers store (service.get token digest) (.ok manifest) ∧
      ∃ stored, Answers store (Store.statBlob token digest) (.ok stored) := by
  obtain ⟨blob, there⟩ := readable.member linked
  obtain ⟨manifest, payload, put, rfl⟩ := readable.blob there
  have sound : BlobBackend.Sound store := trivial
  have got := ManifestService.get_answers standard sound there rfl put.reread token
  have stated := statBlob_answers store token digest
  rw [there] at stated
  exact ⟨manifest, payload, put, got, _, stated⟩

end AllReadable

end MemoryStore

/-! ## What makes a listing fail -/

namespace Referrers

section Entries

variable {artifactType : String} {referrer : Digest} {error : ReferrersError}

/-- A creation time is malformed in one of the annotations that may tell it. -/
theorem createdAt_error {contents : Artifact} (failed : createdAt referrer contents = .error error) :
    ∃ key reason, error = .annotationParse referrer key reason := by
  rw [createdAt] at failed
  split at failed
  · cases failed
  · split at failed
    · cases failed
    · cases failed
      exact ⟨_, _, rfl⟩

/-- An entry for a manifest that is there fails with the creation time of an artifact, and with nothing
else. -/
theorem entryOf_eq_error_iff {manifest : Manifest} {stored : Descriptor} :
    entryOf artifactType referrer (.ok manifest) (.ok stored) = .error error ↔
      ∃ contents payload?, manifest = ⟨.artifact contents, payload?⟩ ∧
        passes artifactType contents = true ∧ createdAt referrer contents = .error error := by
  constructor
  · intro failed
    obtain ⟨variant, payload?⟩ := manifest
    cases variant with
    | image contents => cases failed
    | index contents => cases failed
    | artifact contents =>
      rw [entryOf_artifact] at failed
      split at failed
      · next passing =>
        rcases bind_eq_error_iff.mp failed with failed | ⟨stored, -, failed⟩
        · cases failed
        · rcases bind_eq_error_iff.mp failed with malformed | ⟨created, -, ended⟩
          · exact ⟨contents, payload?, rfl, passing, malformed⟩
          · cases ended
      · cases failed
  · rintro ⟨contents, payload?, rfl, passing, malformed⟩
    rw [entryOf_artifact, if_pos passing, malformed]
    rfl

/-- An artifact with an entry has no malformed creation time, if it is wanted. -/
theorem dated_of_entryOf {contents : Artifact} {payload? : Option Payload} {stored : Descriptor}
    {found : Option Entry} (passing : passes artifactType contents = true)
    (ran : entryOf artifactType referrer (.ok ⟨.artifact contents, payload?⟩) (.ok stored) =
      .ok found) : ∃ created, createdAt referrer contents = .ok created := by
  rw [entryOf_artifact, if_pos passing] at ran
  obtain ⟨_, -, ran⟩ := bind_eq_ok_iff.mp ran
  obtain ⟨created, dated, -⟩ := bind_eq_ok_iff.mp ran
  exact ⟨created, dated⟩

end Entries

section Enumerate

variable {σ : Type} [Backend σ] [LookupBackend σ] {service : ManifestService} {token : Token}
  {store : σ} {subject : Digest} {linked : List Digest}

/-- A listing of manifests that are all there succeeds when no artifact among them, of those that are
wanted, has a malformed creation time. Else it fails with that of one of them. -/
theorem enumerate_or_malformed
    (links : Answers store (digests service.repository token subject) (.ok linked))
    (there : ∀ referrer ∈ linked,
      (∃ manifest, Answers store (service.get token referrer) (.ok manifest)) ∧
        ∃ stored, Answers store (Store.statBlob token referrer) (.ok stored))
    (artifactType : String) :
    ((∃ listing, Answers store (enumerate service token subject artifactType) (.ok listing)) ∧
      ∀ referrer ∈ linked, ∀ contents payload?,
        Answers store (service.get token referrer) (.ok ⟨.artifact contents, payload?⟩) →
        passes artifactType contents = true →
        ∃ created, createdAt referrer contents = .ok created) ∨
    ∃ referrer ∈ linked, ∃ contents payload? key reason,
      Answers store (service.get token referrer) (.ok ⟨.artifact contents, payload?⟩) ∧
      passes artifactType contents = true ∧
      createdAt referrer contents = .error (.annotationParse referrer key reason) ∧
      Answers store (enumerate service token subject artifactType)
        (.error (.annotationParse referrer key reason)) := by
  obtain ⟨got, reported, gets, reports⟩ := exists_lookups service token store
  have each (referrer : Digest) : Answers store (findEntry service token artifactType referrer)
      (entryOf artifactType referrer (got referrer) (reported referrer)) :=
    findEntry_answers (gets referrer) (reports referrer)
  have lists := enumerate_of_listed links fun referrer _ => each referrer
  generalize ran : (linked.mapM fun referrer =>
    entryOf artifactType referrer (got referrer) (reported referrer)) = result at lists
  cases result with
  | ok found =>
    refine .inl ⟨⟨_, lists⟩, fun referrer member contents payload? gives passing => ?_⟩
    obtain ⟨-, stored, states⟩ := there referrer member
    obtain ⟨shown, ran⟩ := exists_ok_of_mapM ran member
    rw [(gets referrer).unique gives, (reports referrer).unique states] at ran
    exact dated_of_entryOf passing ran
  | error error =>
    obtain ⟨referrer, member, failed⟩ := exists_error_of_mapM ran
    obtain ⟨⟨manifest, gives⟩, stored, states⟩ := there referrer member
    rw [(gets referrer).unique gives, (reports referrer).unique states] at failed
    obtain ⟨contents, payload?, rfl, passing, malformed⟩ := entryOf_eq_error_iff.mp failed
    obtain ⟨key, reason, rfl⟩ := createdAt_error malformed
    exact .inr ⟨referrer, member, contents, payload?, key, reason, gives, passing, malformed, lists⟩

end Enumerate

end Referrers

/-! ## Availability -/

/-- A listing of some type would show the artifact, which was put about the subject, but its creation
time is malformed. The put of the artifact with its own bytes may have failed. -/
structure Malformed (events : List Event) (subject : Digest) (artifactType : String) (digest : Digest)
    (contents : Artifact) (payload : Payload) (error : ReferrersError) : Prop where
  refers : Refers events subject digest
  put : MemoryStore.WasPut events digest ⟨.artifact contents, some payload⟩ payload
  wanted : Referrers.passes artifactType contents = true
  malformed : Referrers.createdAt digest contents = .error error
  annotation : ∃ key reason, error = .annotationParse digest key reason

theorem PutAbout.refers {events : List Event} {subject digest : Digest} {contents : Artifact}
    {payload? : Option Payload} (put : PutAbout events subject digest contents payload?) :
    Refers events subject digest := by
  obtain ⟨skip, about, happened, has, same⟩ := put
  exact ⟨_, skip, about, happened, has, same⟩

section Put

variable {payloads : Set Bytes} {repository : String} {events : List Event} {store : MemoryStore}
  {service : ManifestService} {subject digest : Digest} {artifactType : String}

/-- An artifact that was put about a subject is found as what was put. -/
theorem KeptWhole.get_putAbout (kept : KeptWhole payloads repository events store)
    (standard : service.Standard) {contents : Artifact} {payload? : Option Payload}
    (put : PutAbout events subject digest contents payload?) (token : Token) :
    Answers store (service.get token digest) (.ok ⟨.artifact contents, payload?⟩) := by
  obtain ⟨skip, about, happened, has, -⟩ := put
  obtain ⟨blob, payload, there, mediaType_eq, -, -, parsed⟩ :=
    kept.artifact_of_answered happened has
  exact ManifestService.get_answers standard kept.sound there mediaType_eq parsed token

/-- When blobs are manifests that were put and links are referrers, only malformed creation times make a
listing fail. -/
theorem MemoryStore.AllReadable.enumerate_or_malformed (readable : AllReadable events store)
    (holds : HoldsReferrers service.repository events store)
    (only : HoldsOnlyReferrers service.repository events store) (standard : service.Standard)
    (named : validRepositoryName service.repository = true) (valid : subject.IsValid)
    (artifactType : String) (token : Token) :
    ((∃ listing, Answers store (Referrers.enumerate service token subject artifactType)
        (.ok listing)) ∧
      ∀ digest contents payload?, Refers events subject digest →
        Answers store (service.get token digest) (.ok ⟨.artifact contents, payload?⟩) →
        Referrers.passes artifactType contents = true →
        ∃ created, Referrers.createdAt digest contents = .ok created) ∨
    ∃ digest contents payload error,
      Malformed events subject artifactType digest contents payload error ∧
      Answers store (service.get token digest) (.ok ⟨.artifact contents, some payload⟩) ∧
      Answers store (Referrers.enumerate service token subject artifactType) (.error error) := by
  obtain ⟨path, derived⟩ := referrersLinkPath_of_valid named valid
  have members_iff (digest : Digest) : digest ∈ store.members path ↔ Refers events subject digest :=
    mem_members_iff holds only derived
  have there (digest : Digest) (linked : digest ∈ store.members path) :
      (∃ manifest, Answers store (service.get token digest) (.ok manifest)) ∧
        ∃ stored, Answers store (Store.statBlob token digest) (.ok stored) := by
    obtain ⟨manifest, payload, -, gives, states⟩ := readable.get_answers standard linked token
    exact ⟨⟨manifest, gives⟩, states⟩
  rcases Referrers.enumerate_or_malformed (digests_answers token store derived) there
      artifactType with
    ⟨lists, dated⟩ | ⟨digest, linked, contents, payload?, key, reason, gives, wanted, malformed,
      fails⟩
  · exact .inl ⟨lists, fun digest contents payload? refers =>
      dated digest ((members_iff digest).mpr refers) contents payload?⟩
  · obtain ⟨manifest, payload, put, gives', -⟩ := readable.get_answers standard linked token
    cases gives.unique gives'
    cases Manifest.payload?_of_payload put.payload_eq
    exact .inr ⟨digest, contents, payload, _,
      ⟨(members_iff digest).mp linked, put, wanted, malformed, key, reason, rfl⟩, gives, fails⟩

/-- When every artifact is found as what was put, a listing succeeds if and only if no creation time is
malformed. -/
theorem KeptWhole.enumerate_ok_iff_dated (kept : KeptWhole payloads service.repository events store)
    (readable : MemoryStore.AllReadable events store)
    (holds : MemoryStore.HoldsReferrers service.repository events store)
    (only : MemoryStore.HoldsOnlyReferrers service.repository events store)
    (standard : service.Standard) (named : validRepositoryName service.repository = true)
    (valid : subject.IsValid) (artifactType : String) (token : Token) :
    (∃ listing, Answers store (Referrers.enumerate service token subject artifactType)
        (.ok listing)) ↔
      ∀ digest contents payload?, PutAbout events subject digest contents payload? →
        Referrers.passes artifactType contents = true →
        ∃ created, Referrers.createdAt digest contents = .ok created := by
  rcases readable.enumerate_or_malformed holds only standard named valid artifactType token with
    ⟨lists, dated⟩ | ⟨digest, contents, payload, error, malformed, gives, fails⟩
  · refine iff_of_true lists fun digest contents payload? put wanted => ?_
    exact dated digest contents payload? put.refers (kept.get_putAbout standard put token) wanted
  · refine iff_of_false ?_ fun dated => ?_
    · rintro ⟨listing, lists⟩
      cases lists.unique fails
    · -- What is found under the digest is the artifact that was put about the subject.
      obtain ⟨contents', payload?, put⟩ := malformed.refers.putAbout
      cases gives.unique (kept.get_putAbout standard put token)
      obtain ⟨created, succeeds⟩ := dated digest contents _ put malformed.wanted
      cases malformed.malformed.symm.trans succeeds

end Put

/-! ## A put of a dated artifact -/

/-- An artifact with a creation time. -/
def datedContents (about : Descriptor) (created : String) : Artifact where
  mediaType := Kind.artifact.mediaType
  subject := some about
  annotations := .ofList [("org.opencontainers.artifact.created", created)]

/-- The creation time is read from the annotation. -/
theorem createdAt_datedContents (digest : Digest) (about : Descriptor) (created : String) :
    Referrers.createdAt digest (datedContents about created) =
      ((Timestamp.parse created).map some).mapError
        (.annotationParse digest "org.opencontainers.artifact.created") := by
  simp only [Referrers.createdAt, Referrers.createdAnnotations, datedContents, SortedMap.ofList,
    SortedMap.contains, SortedMap.get?_insert, List.foldl_cons, List.foldl_nil, List.find?_cons,
    if_true, Option.isSome_some, Option.getD_some]
  cases Timestamp.parse created <;> rfl

/-- A dated artifact, sealed. -/
def datedArtifact (about : Descriptor) (created : String) : Manifest :=
  ⟨.artifact (datedContents about created),
    some (Variant.artifact (datedContents about created)).canonicalPayload⟩

/-- The creation time is not looked at by a put. -/
theorem exists_serve_datedArtifact (created : String) : ∃ about path payload,
    referrersLinkPath "library" about.digest = .ok path ∧ about.digest = Digest.ofBytes [] ∧
      (datedArtifact about created).payload = .ok payload ∧
      (⟨.library, .putManifest (datedArtifact about created) true, .none⟩ : Call).serve
          ({} : MemoryStore) =
        (.manifestPut (datedArtifact about created) true (.ok payload.digest),
          (({} : MemoryStore).put Kind.artifact.mediaType payload.bytes).addLink path
            payload.digest) := by
  have named : validRepositoryName "library" = true := by decide +kernel
  obtain ⟨path, derived⟩ := referrersLinkPath_of_valid named (Digest.isValid_ofBytes [])
  let about : Descriptor := { digest := Digest.ofBytes [] }
  have derived : referrersLinkPath "library" about.digest = .ok path := derived
  exact ⟨about, path, _, derived, rfl, rfl,
    MemoryStore.serve_artifact rfl (accepts_sealed rfl rfl derived) (fun _ => rfl) rfl {}⟩

/-! ## The referrers of a subject can be listed -/

/-- When only manifests were put into the store in memory, however it was interfered with, referrers of
a subject can be listed, of one type or of all, unless the creation time of an artifact that was put is
malformed: then the listing fails with this annotation. It fails if and only if a wanted artifact about
the subject has a malformed creation time, unless different payloads have the same digest. Only a
repository without a valid name refuses. -/
theorem enumerate_available {calls : List Call} {repository : String}
    (puts : ∀ call ∈ calls, ∃ manifest skip, call.request = .putManifest manifest skip)
    (wired : ∀ call ∈ calls, call.service.handlers .artifact = some (.referrers repository))
    (obtained : ∀ call ∈ calls, call.request.Obtained) {service : ManifestService}
    {handlers : List Handler}
    (standard : service = .withHandlers repository .withDefaults handlers) {subject : Digest}
    (valid : subject.IsValid) (artifactType : String) (token : Token) :
    (validRepositoryName repository = true →
      (∃ listing, Answers (Call.serveAll ({} : MemoryStore) calls).2
        (Referrers.enumerate service token subject artifactType) (.ok listing)) ∨
      ∃ digest contents payload error,
        Malformed (Call.serveAll ({} : MemoryStore) calls).1 subject artifactType digest contents
          payload error ∧
        Answers (Call.serveAll ({} : MemoryStore) calls).2
          (Referrers.enumerate service token subject artifactType) (.error error)) ∧
    (validRepositoryName repository = true → Set.InjOn Digest.ofBytes
        {payload | ∃ call ∈ calls, call.request.payload? = some payload} →
      ((∃ listing, Answers (Call.serveAll ({} : MemoryStore) calls).2
          (Referrers.enumerate service token subject artifactType) (.ok listing)) ↔
        ∀ digest contents payload?,
          PutAbout (Call.serveAll ({} : MemoryStore) calls).1 subject digest contents payload? →
          Referrers.passes artifactType contents = true →
          ∃ created, Referrers.createdAt digest contents = .ok created)) ∧
    (validRepositoryName repository = false →
      Answers (Call.serveAll ({} : MemoryStore) calls).2
        (Referrers.enumerate service token subject artifactType)
        (.error (.storage (.invalidRepository repository)))) := by
  have repository_eq : service.repository = repository := by
    rw [standard, ManifestService.repository_withHandlers]
  have usual : service.Standard :=
    standard ▸ ManifestService.standard_withHandlers repository handlers
  subst repository_eq
  have artifactsIn (call : Call) (called : call ∈ calls) :
      call.service.ArtifactsIn service.repository :=
    ManifestService.artifactsIn_of_wired (wired call called)
  have readable := MemoryStore.AllReadable.serveAll puts obtained
  have holds := MemoryStore.holdsReferrers_serveAll wired
  have only := MemoryStore.holdsOnlyReferrers_serveAll artifactsIn
  refine ⟨fun named => ?_, fun named injective => ?_, fun invalid => ?_⟩
  · rcases readable.enumerate_or_malformed holds only usual named valid artifactType token with
      ⟨lists, -⟩ | ⟨digest, contents, payload, error, malformed, -, fails⟩
    · exact .inl lists
    · exact .inr ⟨digest, contents, payload, error, malformed, fails⟩
  · have kept := KeptWhole.serveAll (MemoryStore.vacant service.repository) puts artifactsIn
      injective obtained fun call called payload stores => ⟨call, called, stores⟩
    exact kept.enumerate_ok_iff_dated readable holds only usual named valid artifactType token
  · exact Referrers.enumerate_of_invalid invalid subject

/-- An artifact with a creation time in universal time is put, and can be listed. -/
theorem enumerate_available_dated : ∃ (call : Call) (about : Descriptor) (listing : List Descriptor),
    call.request = .putManifest (datedArtifact about "2022-01-01T00:00:00Z") true ∧
      Answers (Call.serveAll ({} : MemoryStore) [call]).2
        (Referrers.enumerate .library .callers about.digest "") (.ok listing) := by
  obtain ⟨about, path, payload, -, same, payload_eq, put⟩ :=
    exists_serve_datedArtifact "2022-01-01T00:00:00Z"
  let call : Call :=
    ⟨.library, .putManifest (datedArtifact about "2022-01-01T00:00:00Z") true, .none⟩
  have events_eq : (Call.serveAll ({} : MemoryStore) [call]).1 =
      [.manifestPut (datedArtifact about "2022-01-01T00:00:00Z") true (.ok payload.digest)] := by
    simp only [call, Call.serveAll, put]
  have single {Holds : Call → Prop} (holds : Holds call) : ∀ call' ∈ [call], Holds call' :=
    List.forall_mem_singleton.mpr holds
  have puts : ∃ manifest skip, call.request = .putManifest manifest skip := ⟨_, _, rfl⟩
  have obtained : call.request.Obtained := obtained_sealed _
  have stores : call.request.payload? = some payload.bytes :=
    Request.payload?_putManifest payload_eq true
  have valid : about.digest.IsValid := same ▸ Digest.isValid_ofBytes []
  have time : Timestamp.parse "2022-01-01T00:00:00Z" = .ok ⟨1640995200, 0⟩ := by decide +kernel
  obtain ⟨-, listed_iff, -⟩ := enumerate_available (single puts) (single rfl) (single obtained) rfl
    valid "" .callers
  obtain ⟨listing, lists⟩ := (listed_iff (by decide +kernel)
    (injOn_of_single (single stores))).mpr <| by
      rintro digest contents payload? ⟨skip, _, happened, -⟩ -
      rw [events_eq] at happened
      cases List.mem_singleton.mp happened
      refine ⟨some ⟨1640995200, 0⟩, ?_⟩
      rw [createdAt_datedContents, time]
      rfl
  exact ⟨call, about, listing, rfl, lists⟩

/-- An artifact that says it was created yesterday is accepted, and its subject has no listing. -/
theorem enumerate_fails_by_annotation :
    ∃ (call : Call) (about : Descriptor) (digest : Digest) (reason : TimestampError),
      call.service = .library ∧ call.request = .putManifest (datedArtifact about "yesterday") true ∧
      about.digest.IsValid ∧
      (Call.serveAll ({} : MemoryStore) [call]).1 =
        [.manifestPut (datedArtifact about "yesterday") true (.ok digest)] ∧
      Answers (Call.serveAll ({} : MemoryStore) [call]).2
        (Referrers.enumerate .library .callers about.digest "")
        (.error (.annotationParse digest "org.opencontainers.artifact.created" reason)) := by
  obtain ⟨about, path, payload, derived, same, payload_eq, put⟩ :=
    exists_serve_datedArtifact "yesterday"
  let call : Call := ⟨.library, .putManifest (datedArtifact about "yesterday") true, .none⟩
  let store := (({} : MemoryStore).put Kind.artifact.mediaType payload.bytes).addLink path
    payload.digest
  have served : Call.serveAll ({} : MemoryStore) [call] =
      ([.manifestPut (datedArtifact about "yesterday") true (.ok payload.digest)], store) := by
    simp only [call, Call.serveAll, put, store]
  have there : store.blob? payload.digest = some ⟨Kind.artifact.mediaType, payload.bytes⟩ := by
    rw [MemoryStore.blob?_addLink]
    exact MemoryStore.blob?_put_of_none rfl _
  have members_eq : store.members path = [payload.digest] := by
    rw [MemoryStore.members_addLink, MemoryStore.members_put]
    exact if_pos ⟨rfl, List.not_mem_nil⟩
  have links : Answers store (Referrers.digests "library" .callers about.digest)
      (.ok [payload.digest]) :=
    members_eq ▸ MemoryStore.digests_answers .callers store derived
  let error : ReferrersError := .annotationParse payload.digest "org.opencontainers.artifact.created"
    ⟨"yesterday", .premature⟩
  have malformed : Referrers.createdAt payload.digest (datedContents about "yesterday") =
      .error error := by
    have premature : Timestamp.parse "yesterday" = .error ⟨"yesterday", .premature⟩ := by
      decide +kernel
    rw [createdAt_datedContents, premature]
    rfl
  have fails : Answers store (Referrers.findEntry .library .callers "" payload.digest)
      (.error error) := by
    have usual : ManifestService.library.Standard := ManifestService.standard_withHandlers _ _
    have found : BlobBackend.blobs store payload.digest = some _ := there
    have reread := (obtained_sealed _).reread payload_eq (Variant.mediaTypeMatches_iff.mpr (.inl rfl))
    have got := ManifestService.get_answers usual trivial found rfl reread .callers
    have stated := store.statBlob_answers .callers payload.digest
    rw [there] at stated
    have wanted : Referrers.passes "" (datedContents about "yesterday") = true := rfl
    exact Referrers.entryOf_eq_error_iff.mpr ⟨_, _, rfl, wanted, malformed⟩ ▸
      Referrers.findEntry_answers got stated
  refine ⟨call, about, payload.digest, ⟨"yesterday", .premature⟩, rfl, rfl, ?_, ?_, ?_⟩
  · exact same ▸ Digest.isValid_ofBytes []
  · rw [served]
  · rw [served]
    exact (Answers.record _ _ _).bind_ok (links.bind_ok fails.bind_error.bind_error)

end ArtifactRegistry
