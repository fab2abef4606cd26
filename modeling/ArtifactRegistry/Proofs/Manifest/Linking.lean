import ArtifactRegistry.Proofs.Manifest.Visibility
import ArtifactRegistry.Proofs.Storage.FileLinks

/-! # A put happens as a whole or not at all

A put that fails leaves the store as it was, unless it was the medium that failed, `put_refused`. A put
that succeeds has kept the bytes of the manifest and linked an artifact to its subject, `put_links`.
Between these two there is only a put whose link was lost after its bytes were kept, which needs a
failure of the medium. Clients see the same afterwards, whatever came before, `put_all_or_nothing`.
-/

namespace ArtifactRegistry

open Manifest ArtifactRegistry.Action

/-- Artifacts are refused, or handled by the referrers handler of one repository. -/
def ManifestService.ArtifactsIn (service : ManifestService) (repository : String) : Prop :=
  ∀ handler, service.handlers .artifact = some handler → handler = .referrers repository

theorem ManifestService.artifactsIn_of_wired {service : ManifestService} {repository : String}
    (wired : service.handlers .artifact = some (.referrers repository)) :
    service.ArtifactsIn repository := by
  intro handler inCharge
  exact Option.some.inj (inCharge.symm.trans wired)

/-! ## What one put does -/

section Put

variable {σ : Type} [Backend σ]

/-- A put that fails leaves the store alone, unless the medium has failed. -/
theorem ManifestService.put_refused [ReadingBackend σ] [RefusingBackend σ]
    {service : ManifestService} {token : Token} {manifest : Manifest} {skip : Bool}
    {world after : World σ} {error : PutError}
    (ran : (service.put token manifest skip).runIn world = (.error error, after))
    (otherwise : ∀ source, error ≠ .storage (.medium source)) : after.store = world.store := by
  obtain ⟨_, -, same⟩ | ⟨handler, inCharge, went⟩ := ManifestService.putRun ran
  · exact same
  generalize result_eq : Except.error error = result at went
  cases went with
  | refused _ same => exact same
  | unstored accepts start_eq failed ends =>
    cases result_eq
    rcases RefusingBackend.putBlob_refused failed with ⟨source, rfl⟩ | same
    · exact absurd rfl (otherwise source)
    · rw [ends, same, start_eq]
  | stored accepts start_eq took ends => cases result_eq
  | @linked _ payload _ descriptor result _ _ _ _ accepts start_eq took continues linking ends =>
    cases result with
    | ok _ => cases result_eq
    | error failure =>
      cases result_eq
      have valid : descriptor.digest.IsValid := by
        rw [RefusingBackend.putBlob_digest took]
        exact Digest.isValid_ofBytes _
      obtain ⟨source, rfl⟩ := RefusingBackend.addLink_refused valid linking
      exact absurd rfl (otherwise source)

variable [LinkBackend σ]

open BlobBackend LinkBackend

/-- The bytes of a manifest that has passed all checks are kept under the media type of its kind. -/
structure KeepsPayload (manifest : Manifest) (payload : Payload) (before after : σ) : Prop where
  payload_eq : manifest.payload = .ok payload
  mediaTypeMatches : manifest.variant.mediaTypeMatches = true
  blobs_eq : blobs after = (blobs before).put manifest.kind.mediaType payload.bytes

/-- What a put can do to the blobs and the links of a repository. -/
inductive PutLinks (repository : String) (manifest : Manifest) (before after : σ) :
    Except PutError Digest → Prop
  | refused (error : PutError) (blobs_eq : blobs after = blobs before)
      (links_eq : links after = links before) : PutLinks repository manifest before after (.error error)
  | stored {payload : Payload} (keeps : KeepsPayload manifest payload before after)
      (unrelated : manifest.variant.subject? = none) (links_eq : links after = links before) :
      PutLinks repository manifest before after (.ok payload.digest)
  /-- The medium fails between the payload and the link. -/
  | unlinked {payload : Payload} {about : Descriptor} {source : MediumError}
      (keeps : KeepsPayload manifest payload before after)
      (has : manifest.variant.subject? = some about) (links_eq : links after = links before) :
      PutLinks repository manifest before after (.error (.storage (.medium source)))
  | linked {payload : Payload} {about : Descriptor} {path : String}
      (keeps : KeepsPayload manifest payload before after)
      (has : manifest.variant.subject? = some about)
      (derived : referrersLinkPath repository about.digest = .ok path)
      (links_iff : ∀ other member, member ∈ links after other ↔
        member ∈ links before other ∨ SamePath σ other path ∧ member = payload.digest) :
      PutLinks repository manifest before after (.ok payload.digest)

/-- What is kept before a put is kept afterwards. -/
theorem PutLinks.grown {repository : String} {manifest : Manifest} {before after : σ}
    {result : Except PutError Digest} (put : PutLinks repository manifest before after result)
    (digest : Digest) (blob : StoredBlob) (there : blobs before digest = some blob) :
    blobs after digest = some blob := by
  cases put with
  | refused error blobs_eq links_eq => rw [blobs_eq, there]
  | stored keeps unrelated links_eq => rw [keeps.blobs_eq, Blobs.put_of_some there]
  | unlinked keeps has links_eq => rw [keeps.blobs_eq, Blobs.put_of_some there]
  | linked keeps has derived links_iff => rw [keeps.blobs_eq, Blobs.put_of_some there]

/-- A manifest without a link path has no subject. -/
theorem ManifestService.ArtifactsIn.unrelated {service : ManifestService} {repository : String}
    (artifactsIn : service.ArtifactsIn repository) {manifest : Manifest} {handler : Handler}
    {payload : Payload} (inCharge : service.handlers manifest.kind = some handler)
    (accepts : handler.Accepts manifest payload none) : manifest.variant.subject? = none := by
  cases has : manifest.variant.subject? with
  | none => rfl
  | some about =>
    have kind_eq : manifest.kind = .artifact := Variant.kind_of_subject? has
    rw [kind_eq] at inCharge
    obtain rfl := artifactsIn handler inCharge
    obtain ⟨path, -, linked⟩ := accepts.path?_eq has
    cases linked

/-- A link path is that of the subject in the repository. -/
theorem ManifestService.ArtifactsIn.derived {service : ManifestService} {repository path : String}
    (artifactsIn : service.ArtifactsIn repository) {manifest : Manifest} {handler : Handler}
    {payload : Payload} (inCharge : service.handlers manifest.kind = some handler)
    (accepts : handler.Accepts manifest payload (some path)) :
    ∃ about, manifest.variant.subject? = some about ∧
      referrersLinkPath repository about.digest = .ok path := by
  obtain ⟨other, about, rfl, has, derived⟩ := accepts.linked
  have kind_eq : manifest.kind = .artifact := Variant.kind_of_subject? has
  rw [kind_eq] at inCharge
  cases artifactsIn _ inCharge
  exact ⟨about, has, derived⟩

/-- What a put of a blob has done when it succeeds. -/
private theorem putBlob_took {token : Token} {mediaType repository : String} {payload : Payload}
    {world after : World σ} {descriptor : Descriptor} (sound : Sound world.store)
    (tidy : Tidy repository world.store) (genuine : (blobs world.store).Genuine payload.bytes)
    (took : (Store.putBlob token mediaType payload.bytes).runIn world = (.ok descriptor, after)) :
    Sound after.store ∧ Tidy repository after.store ∧ descriptor.digest = payload.digest ∧
      blobs after.store = (blobs world.store).put mediaType payload.bytes ∧
      links after.store = links world.store := by
  obtain ⟨tidy', links_eq⟩ := putBlob_links tidy took
  obtain ⟨sound', digest_eq, blobs_eq⟩ := putBlob_ok sound genuine took
  exact ⟨sound', tidy', digest_eq, blobs_eq, links_eq⟩

/-- Every put of an artifact or another manifest goes in one of these ways. -/
theorem ManifestService.put_links {service : ManifestService} {repository : String}
    (artifactsIn : service.ArtifactsIn repository) {token : Token} {manifest : Manifest}
    {skip : Bool} {world after : World σ} {result : Except PutError Digest}
    (sound : Sound world.store) (tidy : Tidy repository world.store)
    (genuine : ∀ payload, manifest.payload = .ok payload →
      (blobs world.store).Genuine payload.bytes)
    (ran : (service.put token manifest skip).runIn world = (result, after)) :
    Sound after.store ∧ Tidy repository after.store ∧
      PutLinks repository manifest world.store after.store result := by
  obtain ⟨error, rfl, same⟩ | ⟨handler, inCharge, went⟩ := ManifestService.putRun ran
  · rw [same]
    exact ⟨sound, tidy, .refused error rfl rfl⟩
  cases went with
  | refused error same =>
    rw [same]
    exact ⟨sound, tidy, .refused error rfl rfl⟩
  | unstored accepts start_eq failed ends =>
    rw [← start_eq] at sound tidy genuine ⊢
    rw [ends]
    obtain ⟨tidy', links_eq⟩ := putBlob_links tidy failed
    obtain ⟨sound', blobs_eq⟩ := putBlob_error sound (genuine _ accepts.payload_eq) failed
    exact ⟨sound', tidy', .refused _ blobs_eq links_eq⟩
  | @stored _ payload descriptor _ _ accepts start_eq took ends =>
    rw [← start_eq] at sound tidy genuine ⊢
    obtain ⟨sound', tidy', digest_eq, blobs_eq, links_eq⟩ :=
      putBlob_took sound tidy (genuine _ accepts.payload_eq) took
    rw [ends, digest_eq]
    exact ⟨sound', tidy', .stored ⟨accepts.payload_eq, accepts.mediaTypeMatches, blobs_eq⟩
      (artifactsIn.unrelated inCharge accepts) links_eq⟩
  | @linked _ payload path descriptor result _ _ _ _ accepts start_eq took continues linking ends =>
    rw [← start_eq] at sound tidy genuine ⊢
    obtain ⟨sound', tidy', digest_eq, blobs_eq, links_eq⟩ :=
      putBlob_took sound tidy (genuine _ accepts.payload_eq) took
    obtain ⟨about, has, derived⟩ := artifactsIn.derived inCharge accepts
    rw [← continues] at sound' tidy' blobs_eq links_eq
    rw [digest_eq] at linking
    have valid : payload.digest.IsValid := Digest.isValid_ofBytes payload.bytes
    obtain ⟨sound'', same⟩ := addLink_ran sound' derived linking
    obtain ⟨tidy'', linked⟩ := addLink_links tidy' derived valid linking
    rw [links_eq] at linked
    rw [ends, digest_eq]
    refine ⟨sound'', tidy'', ?_⟩
    have keeps := KeepsPayload.mk accepts.payload_eq accepts.mediaTypeMatches (same.trans blobs_eq)
    obtain ⟨⟨error, rfl⟩, unchanged⟩ | ⟨rfl, links_iff⟩ := linked
    · obtain ⟨source, rfl⟩ := RefusingBackend.addLink_refused valid linking
      exact .unlinked keeps has unchanged
    · exact .linked keeps has derived links_iff

end Put

/-! ## What every run keeps up -/

section Run

variable {σ : Type} [Backend σ] [LinkBackend σ] {payloads : Set Bytes} {past events : List Event}
  {repository : String} {store after : σ}

open BlobBackend LinkBackend

/-- The bytes of an artifact about a subject are kept under a digest. -/
def KeepsArtifact (store : σ) (digest : Digest) (about : Descriptor) : Prop :=
  ∃ blob manifest, blobs store digest = some blob ∧ parse .artifact blob.bytes = .ok manifest ∧
    manifest.variant.subject? = some about

/-- Every link leads to an artifact about the subject whose set it is in. -/
def Attributed (repository : String) (store : σ) : Prop :=
  ∀ path member, member ∈ links store path → ∃ about derived, KeepsArtifact store member about ∧
    referrersLinkPath repository about.digest = .ok derived ∧ SamePath σ path derived

theorem KeepsArtifact.mono {digest : Digest} {about : Descriptor}
    (keeps : KeepsArtifact store digest about)
    (grown : ∀ digest blob, blobs store digest = some blob → blobs after digest = some blob) :
    KeepsArtifact after digest about := by
  obtain ⟨blob, manifest, there, parsed, has⟩ := keeps
  exact ⟨blob, manifest, grown _ _ there, parsed, has⟩

theorem Attributed.of_same (attributed : Attributed repository store)
    (grown : ∀ digest blob, blobs store digest = some blob → blobs after digest = some blob)
    (links_eq : links after = links store) : Attributed repository after := by
  intro path member there
  rw [links_eq] at there
  obtain ⟨about, derived, keeps, rest⟩ := attributed path member there
  exact ⟨about, derived, keeps.mono grown, rest⟩

/-- What holds of a store after some events, when all artifacts are those of one repository. -/
structure KeptLinks (payloads : Set Bytes) (repository : String) (events : List Event) (store : σ) :
    Prop extends Kept payloads events store where
  tidy : Tidy repository store
  attributed : Attributed repository store

namespace KeptLinks

/-- A put of a manifest keeps up the links. -/
theorem attributed_of_put (kept : KeptLinks payloads repository past store)
    (injective : Set.InjOn Digest.ofBytes payloads) {manifest : Manifest}
    (obtained : manifest.Obtained)
    (member : ∀ payload, manifest.payload = .ok payload → payload.bytes ∈ payloads)
    {result : Except PutError Digest}
    (put : PutLinks repository manifest store after result) : Attributed repository after := by
  have grown := put.grown
  cases put with
  | refused error blobs_eq links_eq => exact kept.attributed.of_same grown links_eq
  | stored keeps unrelated links_eq => exact kept.attributed.of_same grown links_eq
  | unlinked keeps has links_eq => exact kept.attributed.of_same grown links_eq
  | @linked payload about path keeps has derived links_iff =>
    intro other digest there
    rcases (links_iff other digest).mp there with before | ⟨same, rfl⟩
    · obtain ⟨about', derived', artifact, rest⟩ := kept.attributed other digest before
      exact ⟨about', derived', artifact.mono grown, rest⟩
    · obtain ⟨blob, there, bytes_eq⟩ :=
        (kept.genuine injective (member payload keeps.payload_eq)).put_self manifest.kind.mediaType
      have kind_eq : manifest.kind = .artifact := Variant.kind_of_subject? has
      have parsed := obtained.reread keeps.payload_eq keeps.mediaTypeMatches
      refine ⟨about, path, ⟨blob, manifest, ?_, ?_, has⟩, derived, same⟩
      · rw [keeps.blobs_eq]
        exact there
      · rw [bytes_eq, ← kind_eq, parsed]

/-- Serving a call keeps it up. -/
theorem serve {call : Call} (artifactsIn : call.service.ArtifactsIn repository)
    (injective : Set.InjOn Digest.ofBytes payloads) (obtained : call.request.Obtained)
    (member : ∀ payload, call.request.payload? = some payload → payload ∈ payloads)
    (past : List Event) (store : σ) (kept : KeptLinks payloads repository past store) :
    KeptLinks payloads repository (past ++ [(call.serve store).1]) (call.serve store).2 := by
  suffices links : Tidy repository (call.serve store).2 ∧ Attributed repository (call.serve store).2
    from ⟨kept.toKept.serve injective obtained member past store, links.1, links.2⟩
  obtain ⟨service, request, interference⟩ := call
  cases request with
  | putBlob mediaType payload =>
    simp only [Call.serve]
    generalize ran : (Store.putBlob (σ := σ) .callers mediaType payload).runIn _ = outcome
    obtain ⟨result, ended⟩ := outcome
    obtain ⟨tidy, links_eq⟩ := putBlob_links kept.tidy ran
    refine ⟨tidy, kept.attributed.of_same (fun digest blob there => ?_) links_eq⟩
    obtain ⟨-, ⟨-, same⟩ | ⟨-, put⟩⟩ :=
      putBlob_ran kept.sound (kept.genuine injective (member payload rfl)) ran
    · rw [same, there]
    · rw [put, Blobs.put_of_some there]
  | putManifest manifest skip =>
    simp only [Call.serve]
    generalize ran : (service.put (σ := σ) .callers manifest skip).runIn _ = outcome
    obtain ⟨result, ended⟩ := outcome
    have mem_payloads (payload : Payload) (payload_eq : manifest.payload = .ok payload) :=
      member payload.bytes (Request.payload?_putManifest payload_eq skip)
    obtain ⟨-, tidy, put⟩ := ManifestService.put_links artifactsIn kept.sound kept.tidy
      (fun payload payload_eq => kept.genuine injective (mem_payloads payload payload_eq)) ran
    exact ⟨tidy, kept.attributed_of_put injective obtained mem_payloads put⟩

end KeptLinks

/-- A store that keeps nothing. -/
structure Vacant (repository : String) (start : σ) : Prop where
  sound : Sound start
  blobs_eq : blobs start = fun _ => none
  tidy : Tidy repository start
  links_eq : links start = fun _ => ∅

theorem KeptLinks.of_vacant (vacant : Vacant repository store) :
    KeptLinks payloads repository [] store := by
  refine { toKept := .of_empty vacant.sound vacant.blobs_eq, tidy := vacant.tidy, attributed := ?_ }
  intro path member there
  rw [vacant.links_eq] at there
  cases there

/-- Whatever is asked of a store that keeps nothing, its links lead to artifacts about their subject. -/
theorem KeptLinks.serveAll (vacant : Vacant repository store) {calls : List Call}
    (artifactsIn : ∀ call ∈ calls, call.service.ArtifactsIn repository)
    (injective : Set.InjOn Digest.ofBytes payloads) (obtained : ∀ call ∈ calls, call.request.Obtained)
    (member : ∀ call ∈ calls, ∀ payload, call.request.payload? = some payload → payload ∈ payloads) :
    KeptLinks payloads repository (Call.serveAll store calls).1 (Call.serveAll store calls).2 :=
  Call.serveAll_preserves
    (fun call called => KeptLinks.serve (artifactsIn call called) injective (obtained call called)
      (member call called))
    [] (.of_vacant vacant)

end Run

theorem MemoryStore.vacant (repository : String) : Vacant repository ({} : MemoryStore) := by
  refine ⟨trivial, rfl, trivial, ?_⟩
  funext path
  rw [Set.eq_empty_iff_forall_notMem]
  rintro member ⟨⟩

theorem FileStore.vacant (repository root : String) :
    Vacant repository (⟨root, .empty⟩ : FileStore) := by
  obtain ⟨sound, blobs_eq⟩ := sound_empty root
  obtain ⟨tidy, links_eq⟩ := tidy_empty repository root
  exact ⟨sound, blobs_eq, tidy, links_eq⟩

/-- Both backends keep sets of links, and start without anything. -/
theorem StartsEmpty.vacant {σ : Type} {backend : Backend σ} {start : σ}
    (empty : StartsEmpty σ backend start) (repository : String) :
    ∃ _ : LinkBackend σ, Vacant repository start := by
  cases empty with
  | memory => exact ⟨inferInstance, MemoryStore.vacant repository⟩
  | files root => exact ⟨inferInstance, FileStore.vacant repository root⟩

/-! ## Puts as clients see them -/

/-- A put leaves the store alone, is stopped by the medium, or leaves all that it has to. -/
theorem KeptLinks.put_whole {σ : Type} [Backend σ] [LinkBackend σ] {payloads : Set Bytes}
    {events : List Event} {repository : String} {before : σ}
    (kept : KeptLinks payloads repository events before)
    (injective : Set.InjOn Digest.ofBytes payloads) {service : ManifestService}
    (artifactsIn : service.ArtifactsIn repository) {manifest : Manifest}
    (member : ∀ payload, manifest.payload = .ok payload → payload.bytes ∈ payloads) {token : Token}
    {skip : Bool} {world ended : World σ} {result : Except PutError Digest}
    (starts : world.store = before)
    (ran : (service.put token manifest skip).runIn world = (result, ended)) :
    (∀ error, result = .error error → (∀ source, error ≠ .storage (.medium source)) →
        ended.store = before) ∧
      ∀ digest about, result = .ok digest → manifest.variant.subject? = some about →
        ∃ payload path, manifest.payload = .ok payload ∧ payload.digest = digest ∧
          HasBlob ended.store digest payload.bytes ∧
          referrersLinkPath repository about.digest = .ok path ∧
          HasLink ended.store path digest := by
  subst starts
  constructor
  · rintro error rfl otherwise
    exact ManifestService.put_refused ran otherwise
  · rintro digest about rfl has
    have genuine (payload : Payload) (payload_eq : manifest.payload = .ok payload) :=
      kept.genuine injective (member payload payload_eq)
    obtain ⟨sound, tidy, put⟩ :=
      ManifestService.put_links artifactsIn kept.sound kept.tidy genuine ran
    cases put with
    | stored keeps unrelated links_eq =>
      rw [unrelated] at has
      cases has
    | @linked payload about' path keeps has' derived links_iff =>
      cases has'.symm.trans has
      obtain ⟨blob, there, bytes_eq⟩ :=
        (genuine payload keeps.payload_eq).put_self manifest.kind.mediaType
      refine ⟨payload, path, keeps.payload_eq, rfl, ?_, derived, ?_⟩
      · rw [hasBlob_iff sound, keeps.blobs_eq]
        exact ⟨blob, there, bytes_eq⟩
      · rw [hasLink_iff tidy derived, links_iff]
        exact .inr ⟨LinkBackend.samePath_refl path, rfl⟩

/-- Whatever was asked of a store that was empty at first, and however it was interfered with: a put
that fails leaves the store exactly as it was, unless it was the medium that failed; and a put of an
artifact about a subject that succeeds leaves the bytes of the artifact under the digest that it was
answered with, and this digest in the link set of the subject, even when the token of the caller has
fired in between. -/
theorem put_all_or_nothing {σ : Type} [backend : Backend σ] {start after : σ}
    (empty : StartsEmpty σ backend start) {calls : List Call} {last : Call} {repository : String}
    (artifactsIn : ∀ call ∈ calls ++ [last], call.service.ArtifactsIn repository)
    (obtained : ∀ call ∈ calls ++ [last], call.request.Obtained)
    (injective : Set.InjOn Digest.ofBytes
      {payload | ∃ call ∈ calls ++ [last], call.request.payload? = some payload})
    {manifest : Manifest} {skip : Bool} {result : Except PutError Digest}
    (put : last.serve (Call.serveAll start calls).2 = (.manifestPut manifest skip result, after)) :
    (∀ error, result = .error error → (∀ source, error ≠ .storage (.medium source)) →
        after = (Call.serveAll start calls).2) ∧
      ∀ digest about, result = .ok digest → manifest.variant.subject? = some about →
        ∃ payload path, manifest.payload = .ok payload ∧ payload.digest = digest ∧
          HasBlob after digest payload.bytes ∧
          referrersLinkPath repository about.digest = .ok path ∧ HasLink after path digest := by
  obtain ⟨_, vacant⟩ := empty.vacant repository
  have earlier (call : Call) (called : call ∈ calls) : call ∈ calls ++ [last] :=
    List.mem_append_left _ called
  have final : last ∈ calls ++ [last] := List.mem_append_right _ (List.mem_singleton_self last)
  have kept : KeptLinks _ repository (Call.serveAll start calls).1 (Call.serveAll start calls).2 :=
    .serveAll vacant (fun call called => artifactsIn call (earlier call called)) injective
      (fun call called => obtained call (earlier call called))
      fun call called payload has => ⟨call, earlier call called, has⟩
  have wired := artifactsIn last final
  obtain ⟨service, request, interference⟩ := last
  cases request with
  | putBlob mediaType payload => cases put
  | putManifest manifest' skip' =>
    simp only [Call.serve] at put
    generalize ran : (service.put (σ := σ) .callers manifest' skip').runIn _ = outcome at put
    obtain ⟨result', ended⟩ := outcome
    cases put
    apply kept.put_whole injective wired _ rfl ran
    exact fun payload payload_eq => ⟨_, final, Request.payload?_putManifest payload_eq _⟩

/-! ## A bare artifact -/

theorem obtained_sealed (variant : Variant) :
    Manifest.Obtained ⟨variant, some variant.canonicalPayload⟩ :=
  .sealed (.draft variant) (ofVariant_eq variant)

/-- An artifact is accepted when its link has a path. -/
theorem accepts_sealed {repository path : String} {contents : Artifact} {about : Descriptor}
    (declared : contents.mediaType = Kind.artifact.mediaType) (has : contents.subject = some about)
    (derived : referrersLinkPath repository about.digest = .ok path) :
    (Handler.referrers repository).Accepts
      ⟨.artifact contents, some (Variant.artifact contents).canonicalPayload⟩
      (Variant.artifact contents).canonicalPayload (some path) := by
  refine ⟨rfl, Variant.mediaTypeMatches_iff.mpr (.inl declared), rfl, ?_⟩
  simp only [Handler.link?, Handler.linkPath?, Variant.subject?, has, derived]
  rfl

/-- An artifact that says no more than what it is and what it is about, sealed. -/
def bareArtifact (about : Descriptor) : Manifest :=
  let variant : Variant := .artifact { mediaType := Kind.artifact.mediaType, subject := some about }
  ⟨variant, some variant.canonicalPayload⟩

theorem obtained_bareArtifact (about : Descriptor) : (bareArtifact about).Obtained :=
  obtained_sealed _

/-- A subject, as it is named by the hash of no bytes at all. -/
def bareSubject : Digest :=
  ⟨"sha256:e3b0c44298fc1c149afbf4c8996fb92427ae41e4649b934ca495991b7852b855"⟩

theorem validate_bareSubject : bareSubject.validate = .ok .sha256 := by
  decide +kernel

/-- A service of one repository with all handlers. -/
def ManifestService.library : ManifestService :=
  .withHandlers "library" .withDefaults (defaultHandlers ++ [.referrers "library"])

theorem ManifestService.artifactsIn_library : library.ArtifactsIn "library" :=
  artifactsIn_of_wired rfl

theorem accepts_bareArtifact {about : Descriptor} {path : String}
    (derived : referrersLinkPath "library" about.digest = .ok path) :
    (Handler.referrers "library").Accepts (bareArtifact about)
      (bareArtifact about).variant.canonicalPayload (some path) :=
  accepts_sealed rfl rfl derived

/-- An artifact about the empty payload can be linked. -/
theorem exists_accepts_bareArtifact : ∃ about path payload,
    referrersLinkPath "library" about.digest = .ok path ∧ about.digest = Digest.ofBytes [] ∧
      (Handler.referrers "library").Accepts (bareArtifact about) payload (some path) := by
  have named : validRepositoryName "library" = true := by decide +kernel
  obtain ⟨path, derived⟩ := referrersLinkPath_of_valid named (Digest.isValid_ofBytes [])
  let about : Descriptor := { digest := Digest.ofBytes [] }
  have derived : referrersLinkPath "library" about.digest = .ok path := derived
  exact ⟨about, path, _, derived, rfl, accepts_bareArtifact derived⟩

/-- A put of a bare artifact. -/
def bareCall (about : Descriptor) : Call := ⟨.library, .putManifest (bareArtifact about) true, .none⟩

/-- In memory, it succeeds. -/
theorem MemoryStore.put_bareArtifact {about : Descriptor} {path : String}
    (derived : referrersLinkPath "library" about.digest = .ok path) :
    ((ManifestService.library.put .callers (bareArtifact about) true).runIn
      { store := ({} : MemoryStore) }).1 = .ok (bareArtifact about).variant.canonicalPayload.digest := by
  have put : (bareCall about).serve ({} : MemoryStore) = (.manifestPut _ true (.ok _), _) :=
    MemoryStore.serve_artifact rfl (accepts_bareArtifact derived) (fun _ => rfl) rfl {}
  exact (Event.manifestPut.inj (congrArg Prod.fst put)).2.2

/-- Where it succeeds, the artifact is linked to its subject. -/
theorem hasLink_bareCall {σ : Type} [Backend σ] [LinkBackend σ] {start : σ}
    (vacant : Vacant "library" start) {about : Descriptor} {path : String}
    (derived : referrersLinkPath "library" about.digest = .ok path) {digest : Digest}
    (succeeds : ((ManifestService.library.put .callers (bareArtifact about) true).runIn
      { store := start }).1 = .ok digest) :
    HasLink (Call.serveAll start [bareCall about]).2 path digest := by
  let payloads : Set Bytes := {(bareArtifact about).variant.canonicalPayload.bytes}
  have kept : KeptLinks payloads "library" [] start := .of_vacant vacant
  have member (payload : Payload) (payload_eq : (bareArtifact about).payload = .ok payload) :
      payload.bytes ∈ payloads := by
    cases payload_eq
    exact Set.mem_singleton _
  simp only [bareCall, Call.serve, Call.serveAll]
  generalize ran : Action.runIn _ _ = outcome at succeeds ⊢
  obtain ⟨result, ended⟩ := outcome
  cases succeeds
  obtain ⟨-, whole⟩ := kept.put_whole (Set.injOn_singleton _ _) ManifestService.artifactsIn_library
    member rfl ran
  obtain ⟨_, path', -, -, -, derived', linked⟩ := whole digest about rfl rfl
  cases derived.symm.trans derived'
  exact linked

/-- The token of the caller fires as soon as the artifact is stored, and the artifact is linked. -/
theorem put_all_or_nothing_fired_between :
    ∃ (last : Call) (about : Descriptor) (path : String) (digest : Digest) (after : MemoryStore),
      last.request = .putManifest (bareArtifact about) true ∧
      (∀ looks, last.interference.fired 1 looks = true) ∧
      last.serve ({} : MemoryStore) = (.manifestPut (bareArtifact about) true (.ok digest), after) ∧
      referrersLinkPath "library" about.digest = .ok path ∧ HasLink after path digest := by
  obtain ⟨about, path, payload, derived, -, accepts⟩ := exists_accepts_bareArtifact
  let last : Call := ⟨.library, .putManifest (bareArtifact about) true, .planned none (some 1)⟩
  have put : last.serve ({} : MemoryStore) = (.manifestPut _ true (.ok payload.digest), _) :=
    MemoryStore.serve_artifact rfl accepts (fun _ => rfl) rfl {}
  have artifactsIn : ∀ call ∈ [] ++ [last], call.service.ArtifactsIn "library" :=
    List.forall_mem_singleton.mpr ManifestService.artifactsIn_library
  have obtained : ∀ call ∈ [] ++ [last], call.request.Obtained :=
    List.forall_mem_singleton.mpr (obtained_bareArtifact about)
  have single : ∀ call ∈ [] ++ [last], call.request.payload? = some payload.bytes :=
    List.forall_mem_singleton.mpr (Request.payload?_putManifest accepts.payload_eq true)
  obtain ⟨-, whole⟩ :=
    put_all_or_nothing .memory artifactsIn obtained (injOn_of_single single) put
  obtain ⟨_, path', -, -, -, derived', linked⟩ := whole _ about rfl rfl
  cases derived.symm.trans derived'
  exact ⟨last, about, path, _, _, rfl, fun _ => rfl, put, derived, linked⟩

end ArtifactRegistry
