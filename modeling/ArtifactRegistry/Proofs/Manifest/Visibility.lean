import ArtifactRegistry.Proofs.Manifest.Lookup
import ArtifactRegistry.Proofs.Manifest.Requests
import ArtifactRegistry.Proofs.Manifest.RoundTrip
import ArtifactRegistry.Proofs.Storage.FileStore
import Mathlib.Data.Set.Function

/-! # Stored manifests are visible

A put stores the bytes of a manifest under the media type of its kind, unless the same bytes are there
already under another: the first put settles the media type, and a lookup goes by it. Whatever was
asked before, every blob in a store was put by a client under its media type, or reads as a manifest
of its media type, `Kept`. So a manifest that was put is visible exactly when its bytes were not first
stored as something else, `put_visible`.
-/

namespace ArtifactRegistry

open Manifest ArtifactRegistry.Action

/-! ## Manifests and their bytes -/

/-- The ways to come by a manifest. -/
inductive Manifest.Obtained : Manifest → Prop
  | draft (variant : Variant) : Obtained (draft variant)
  | sealed {manifest result : Manifest} (obtained : Obtained manifest)
      (ran : manifest.sealed = .ok result) : Obtained result
  | parsed {kind : Kind} {text : Bytes} {manifest : Manifest}
      (ran : parse kind text = .ok manifest) : Obtained manifest

/-- The bytes of a manifest are read back as the manifest. -/
theorem Manifest.Obtained.reread {manifest : Manifest} (obtained : manifest.Obtained)
    {payload : Payload} (payload_eq : manifest.payload = .ok payload)
    (fits : manifest.variant.mediaTypeMatches = true) :
    parse manifest.kind payload.bytes = .ok manifest := by
  induction obtained with
  | draft variant => cases payload_eq
  | @sealed manifest result obtained ran ih =>
    obtain ⟨variant, payload?⟩ := manifest
    cases payload? with
    | some _ =>
      cases ran
      exact ih payload_eq fits
    | none =>
      have sealing : ofVariant variant = .ok result := ran
      rw [ofVariant_eq] at sealing
      cases sealing
      cases payload_eq
      exact parse_canonical fits
  | @parsed kind text manifest ran =>
    obtain ⟨-, read, -, kept, kept_eq, rfl⟩ := parse_eq_ok_iff.mp ran
    rw [Manifest.payload, kept_eq] at payload_eq
    cases payload_eq
    have kind_eq : manifest.kind = kind := kind_of_reader (Json.Reader.run_eq_ok_iff.mp read).1
    rwa [kind_eq]

theorem Manifest.payload?_of_payload {manifest : Manifest} {payload : Payload}
    (payload_eq : manifest.payload = .ok payload) : manifest.payload? = some payload := by
  rw [Manifest.payload] at payload_eq
  split at payload_eq
  · next kept =>
    cases payload_eq
    exact kept
  · cases payload_eq

/-- The bytes that a request would have stored. -/
def Request.payload? : Request → Option Bytes
  | .putBlob _ payload => some payload
  | .putManifest manifest _ => manifest.payload?.map Payload.bytes

theorem Request.payload?_putManifest {manifest : Manifest} {payload : Payload}
    (payload_eq : manifest.payload = .ok payload) (skip : Bool) :
    (Request.putManifest manifest skip).payload? = some payload.bytes := by
  rw [Request.payload?, payload?_of_payload payload_eq]
  rfl

/-- Clients put only manifests that they came by. -/
def Request.Obtained : Request → Prop
  | .putBlob _ _ => True
  | .putManifest manifest _ => manifest.Obtained

/-! ## What a put does to the blobs -/

theorem Blobs.put_eq_some {blobs : Blobs} {mediaType : String} {payload : Bytes} {digest : Digest}
    {blob : StoredBlob} (there : blobs.put mediaType payload digest = some blob) :
    blobs digest = some blob ∨ digest = Digest.ofBytes payload ∧ blob = ⟨mediaType, payload⟩ := by
  rw [Blobs.put] at there
  split at there
  · next same =>
    cases before : blobs digest with
    | some old =>
      rw [before] at there
      exact .inl there
    | none =>
      rw [before] at there
      cases there
      exact .inr ⟨same, rfl⟩
  · exact .inl there

section Put

variable {σ : Type} [Backend σ] [BlobBackend σ]

/-- A put of a manifest changes no blob, or keeps the payload under the media type of the kind. -/
theorem ManifestService.put_ran {service : ManifestService} {token : Token} {manifest : Manifest}
    {skip : Bool} {world after : World σ} {result : Except PutError Digest}
    (sound : BlobBackend.Sound world.store)
    (genuine : ∀ payload, manifest.payload = .ok payload →
      (BlobBackend.blobs world.store).Genuine payload.bytes)
    (ran : (service.put token manifest skip).runIn world = (result, after)) :
    BlobBackend.Sound after.store ∧
      ((∃ error, result = .error error) ∧
          BlobBackend.blobs after.store = BlobBackend.blobs world.store ∨
        ∃ payload, manifest.payload = .ok payload ∧ manifest.variant.mediaTypeMatches = true ∧
          (∀ digest, result = .ok digest → digest = payload.digest) ∧
          BlobBackend.blobs after.store =
            (BlobBackend.blobs world.store).put manifest.kind.mediaType payload.bytes) := by
  obtain ⟨error, failed, same⟩ | ⟨handler, inCharge, went⟩ := ManifestService.putRun ran
  · rw [same]
    exact ⟨sound, .inl ⟨⟨error, failed⟩, rfl⟩⟩
  cases went with
  | refused error same =>
    rw [same]
    exact ⟨sound, .inl ⟨⟨error, rfl⟩, rfl⟩⟩
  | unstored accepts start_eq failed ends =>
    rw [← start_eq] at sound genuine ⊢
    obtain ⟨sound', same⟩ := BlobBackend.putBlob_error sound (genuine _ accepts.payload_eq) failed
    rw [ends]
    exact ⟨sound', .inl ⟨⟨_, rfl⟩, same⟩⟩
  | @stored _ payload descriptor _ _ accepts start_eq took ends =>
    rw [← start_eq] at sound genuine ⊢
    obtain ⟨sound', digest_eq, kept⟩ :=
      BlobBackend.putBlob_ok sound (genuine _ accepts.payload_eq) took
    rw [ends]
    refine ⟨sound', .inr ⟨payload, accepts.payload_eq, accepts.mediaTypeMatches, ?_, kept⟩⟩
    rintro digest ⟨⟩
    exact digest_eq
  | @linked _ payload path descriptor result _ _ _ _ accepts start_eq took continues linking ends =>
    rw [← start_eq] at sound genuine ⊢
    obtain ⟨sound', digest_eq, kept⟩ :=
      BlobBackend.putBlob_ok sound (genuine _ accepts.payload_eq) took
    rw [← continues] at sound' kept
    obtain ⟨repository, about, -, -, derived⟩ := accepts.linked
    obtain ⟨sound'', same⟩ := BlobBackend.addLink_ran sound' derived linking
    rw [ends]
    refine ⟨sound'', .inr ⟨payload, accepts.payload_eq, accepts.mediaTypeMatches, ?_,
      same.trans kept⟩⟩
    intro digest answered
    cases result with
    | error error => cases answered
    | ok _ =>
      cases answered
      exact digest_eq

end Put

/-! ## What every run keeps up -/

/-- A blob was put by a client, or reads as a manifest of its media type. -/
def StoredBlob.Explained (blob : StoredBlob) (events : List Event) : Prop :=
  (∃ descriptor, .blobPut blob.mediaType blob.bytes (.ok descriptor) ∈ events) ∨
    ∃ (kind : Kind) (manifest : Manifest), kind.mediaType = blob.mediaType ∧
      parse kind blob.bytes = .ok manifest

theorem StoredBlob.Explained.mono {blob : StoredBlob} {past events : List Event}
    (explained : blob.Explained past) (grown : past ⊆ events) : blob.Explained events := by
  rcases explained with ⟨descriptor, happened⟩ | parses
  · exact .inl ⟨descriptor, grown happened⟩
  · exact .inr parses

variable {σ : Type} [Backend σ] [BlobBackend σ] {payloads : Set Bytes} {past events : List Event}
  {store after : σ}

/-- What holds of a store after some events, when only some payloads are ever put. -/
structure Kept (payloads : Set Bytes) (events : List Event) (store : σ) : Prop where
  sound : BlobBackend.Sound store
  digest_eq {digest : Digest} {blob : StoredBlob}
    (there : BlobBackend.blobs store digest = some blob) :
    digest = Digest.ofBytes blob.bytes ∧ blob.bytes ∈ payloads
  explained {digest : Digest} {blob : StoredBlob}
    (there : BlobBackend.blobs store digest = some blob) : blob.Explained events

namespace Kept

theorem genuine (kept : Kept payloads past store) (injective : Set.InjOn Digest.ofBytes payloads)
    {payload : Bytes} (member : payload ∈ payloads) : (BlobBackend.blobs store).Genuine payload := by
  intro blob there
  obtain ⟨digest_eq, member'⟩ := kept.digest_eq there
  exact injective member' member digest_eq.symm

theorem of_same (kept : Kept payloads past store) (grown : past ⊆ events)
    (sound : BlobBackend.Sound after)
    (same : BlobBackend.blobs after = BlobBackend.blobs store) : Kept payloads events after := by
  constructor
  · exact sound
  · intro digest blob there
    rw [same] at there
    exact kept.digest_eq there
  · intro digest blob there
    rw [same] at there
    exact (kept.explained there).mono grown

theorem of_put (kept : Kept payloads past store) (grown : past ⊆ events)
    (sound : BlobBackend.Sound after) {mediaType : String} {payload : Bytes}
    (member : payload ∈ payloads) (explained : StoredBlob.Explained ⟨mediaType, payload⟩ events)
    (put : BlobBackend.blobs after = (BlobBackend.blobs store).put mediaType payload) :
    Kept payloads events after := by
  constructor
  · exact sound
  · intro digest blob there
    rw [put] at there
    rcases Blobs.put_eq_some there with before | ⟨rfl, rfl⟩
    · exact kept.digest_eq before
    · exact ⟨rfl, member⟩
  · intro digest blob there
    rw [put] at there
    rcases Blobs.put_eq_some there with before | ⟨rfl, rfl⟩
    · exact (kept.explained before).mono grown
    · exact explained

/-- Serving a call keeps it up. -/
theorem serve {call : Call} (injective : Set.InjOn Digest.ofBytes payloads)
    (obtained : call.request.Obtained)
    (member : ∀ payload, call.request.payload? = some payload → payload ∈ payloads)
    (past : List Event) (store : σ) (kept : Kept payloads past store) :
    Kept payloads (past ++ [(call.serve store).1]) (call.serve store).2 := by
  obtain ⟨service, request, interference⟩ := call
  have grown (event : Event) : past ⊆ past ++ [event] := List.subset_append_left past [event]
  cases request with
  | putBlob mediaType payload =>
    simp only [Call.serve]
    generalize ran : (Store.putBlob (σ := σ) .callers mediaType payload).runIn _ = outcome
    obtain ⟨result, ended⟩ := outcome
    obtain ⟨sound, ⟨-, same⟩ | ⟨⟨descriptor, rfl, -⟩, put⟩⟩ :=
      BlobBackend.putBlob_ran kept.sound (kept.genuine injective (member payload rfl)) ran
    · exact kept.of_same (grown _) sound same
    · have happened : .blobPut mediaType payload (.ok descriptor) ∈
          past ++ [.blobPut mediaType payload (.ok descriptor)] :=
        List.mem_append_right past (List.mem_singleton_self _)
      exact kept.of_put (grown _) sound (member payload rfl) (.inl ⟨descriptor, happened⟩) put
  | putManifest manifest skip =>
    simp only [Call.serve]
    generalize ran : (service.put (σ := σ) .callers manifest skip).runIn _ = outcome
    obtain ⟨result, ended⟩ := outcome
    have mem_payloads (payload : Payload) (payload_eq : manifest.payload = .ok payload) :
        payload.bytes ∈ payloads := by
      apply member
      rw [Request.payload?, payload?_of_payload payload_eq]
      rfl
    obtain ⟨sound, ⟨-, same⟩ | ⟨payload, payload_eq, fits, -, put⟩⟩ :=
      ManifestService.put_ran kept.sound
        (fun payload payload_eq => kept.genuine injective (mem_payloads payload payload_eq)) ran
    · exact kept.of_same (grown _) sound same
    · have reread := obtained.reread payload_eq fits
      exact kept.of_put (grown _) sound (mem_payloads payload payload_eq)
        (.inr ⟨manifest.kind, manifest, rfl, reread⟩) put

end Kept

/-! ## Visibility -/

/-- A manifest is found under a digest whenever nothing is in the way. -/
def Visible (service : ManifestService) (store : σ) (digest : Digest) (manifest : Manifest) : Prop :=
  ∀ (world : World σ) (token : Token), world.store = store → world.interference = .none →
    ((ManifestService.exists? token digest).runIn world).1 = .ok true ∧
      ∃ reread, ((service.get token digest).runIn world).1 = .ok reread ∧
        reread.variant = manifest.variant ∧ reread.payload = manifest.payload

/-- Whenever nothing is in the way, a store reports no other media type for a digest. -/
def ReportsOnly (store : σ) (digest : Digest) (mediaType : String) : Prop :=
  ∀ (world : World σ) (token : Token) (descriptor : Descriptor), world.store = store →
    world.interference = .none →
    ((Store.statBlob token digest).runIn world).1 = .ok descriptor → descriptor.mediaType = mediaType

theorem visible_iff {service : ManifestService} (standard : service.Standard)
    (sound : BlobBackend.Sound store) {digest : Digest} {blob : StoredBlob}
    (there : BlobBackend.blobs store digest = some blob) {manifest : Manifest}
    (reread : parse manifest.kind blob.bytes = .ok manifest) :
    Visible service store digest manifest ↔ blob.mediaType = manifest.kind.mediaType := by
  constructor
  · intro visible
    let world : World σ := { store }
    obtain ⟨-, found, ran, -⟩ := visible world .fresh rfl rfl
    have sound : BlobBackend.Sound world.store := sound
    obtain ⟨kind, mediaType_eq, parsed⟩ :=
      (ManifestService.get_eq_ok_iff sound rfl .fresh there standard).mp ran
    rw [← mediaType_eq, kind_unique parsed reread]
  · rintro mediaType_eq world token rfl calm
    refine ⟨?_, manifest, ?_, rfl, rfl⟩
    · rw [ManifestService.exists?_of_calm sound calm token there, mediaType_eq,
        isManifestMediaType_mediaType]
    · rw [ManifestService.get_eq_ok_iff sound calm token there standard]
      exact ⟨manifest.kind, mediaType_eq.symm, reread⟩

/-- No kind of manifest has the media type of a blob without one. -/
theorem StoredBlob.ReportedAs.mediaType_eq_iff {blob : StoredBlob} {descriptor : Descriptor}
    (reported : blob.ReportedAs descriptor) {kind : Kind} :
    descriptor.mediaType = kind.mediaType ↔ blob.mediaType = kind.mediaType := by
  rcases reported with same | ⟨untyped, unknown⟩
  · rw [same]
  · rw [untyped, unknown]
    cases kind <;> decide

theorem reportsOnly_iff (sound : BlobBackend.Sound store) {digest : Digest} {kind : Kind} :
    ReportsOnly store digest kind.mediaType ↔
      ∀ blob, BlobBackend.blobs store digest = some blob → blob.mediaType = kind.mediaType := by
  constructor
  · intro reports blob there
    let world : World σ := { store }
    have sound : BlobBackend.Sound world.store := sound
    obtain ⟨descriptor, ran, reported⟩ := BlobBackend.statBlob_of_some sound rfl .fresh there
    exact reported.mediaType_eq_iff.mp (reports world .fresh descriptor rfl rfl ran)
  · rintro only world token descriptor rfl calm ran
    cases there : BlobBackend.blobs world.store digest with
    | none =>
      obtain ⟨error, failed⟩ := BlobBackend.statBlob_of_none sound calm token there
      cases failed.symm.trans ran
    | some blob =>
      obtain ⟨descriptor', ran', reported⟩ := BlobBackend.statBlob_of_some sound calm token there
      cases ran'.symm.trans ran
      exact reported.mediaType_eq_iff.mpr (only blob there)

/-- A manifest that was just put is visible exactly when its bytes were not stored as something else
before. -/
theorem Kept.visible_iff {before : σ} (kept : Kept payloads events before)
    (injective : Set.InjOn Digest.ofBytes payloads) {service : ManifestService}
    (standard : service.Standard) {manifest : Manifest} (obtained : manifest.Obtained)
    (member : ∀ payload, manifest.payload = .ok payload → payload.bytes ∈ payloads) {token : Token}
    {skip : Bool} {world ended : World σ} {digest : Digest} (starts : world.store = before)
    (ran : (service.put token manifest skip).runIn world = (.ok digest, ended)) :
    (Visible service ended.store digest manifest ↔
        ReportsOnly before digest manifest.kind.mediaType) ∧
      ((∀ payload mediaType descriptor, manifest.payload = .ok payload →
          .blobPut mediaType payload.bytes (.ok descriptor) ∈ events →
          mediaType = manifest.kind.mediaType) →
        Visible service ended.store digest manifest) := by
  subst starts
  obtain ⟨sound, ⟨⟨error, failed⟩, -⟩ | ⟨payload, payload_eq, fits, answered, put⟩⟩ :=
    ManifestService.put_ran kept.sound
      (fun payload payload_eq => kept.genuine injective (member payload payload_eq)) ran
  · cases failed
  obtain rfl := answered digest rfl
  have reread := obtained.reread payload_eq fits
  have there : BlobBackend.blobs ended.store payload.digest =
      some ((BlobBackend.blobs world.store payload.digest).getD
        ⟨manifest.kind.mediaType, payload.bytes⟩) := by
    rw [put]
    exact if_pos rfl
  rw [reportsOnly_iff kept.sound]
  cases before : BlobBackend.blobs world.store payload.digest with
  | none =>
    rw [before] at there
    have visible := (ArtifactRegistry.visible_iff standard sound there reread).mpr rfl
    refine ⟨?_, fun _ => visible⟩
    constructor
    · intro _ blob is
      cases is
    · exact fun _ => visible
  | some blob =>
    rw [before, Option.getD_some] at there
    have bytes_eq := kept.genuine injective (member payload payload_eq) blob before
    rw [← bytes_eq] at reread
    have visible := ArtifactRegistry.visible_iff standard sound there reread
    constructor
    · rw [visible]
      constructor
      · rintro same _ ⟨⟩
        exact same
      · intro only
        exact only blob rfl
    · intro typed
      apply visible.mpr
      rcases kept.explained before with ⟨descriptor, happened⟩ | ⟨kind, other, same, parsed⟩
      · rw [bytes_eq] at happened
        exact typed payload _ descriptor payload_eq happened
      · rw [← same, kind_unique parsed reread]

/-! ## Stores that were empty at first -/

/-- The stores that there are at first: one in memory, and one in files below any directory of a tree
without entries. -/
inductive StartsEmpty : (σ : Type) → Backend σ → σ → Prop
  | memory : StartsEmpty MemoryStore inferInstance {}
  | files (root : String) : StartsEmpty FileStore inferInstance ⟨root, .empty⟩

theorem Kept.of_empty {start : σ} (sound : BlobBackend.Sound start)
    (bare : BlobBackend.blobs start = fun _ => none) : Kept payloads [] start := by
  constructor
  · exact sound
  · intro digest blob there
    rw [bare] at there
    cases there
  · intro digest blob there
    rw [bare] at there
    cases there

private theorem visible_of_empty {start after : σ} (sound : BlobBackend.Sound start)
    (bare : BlobBackend.blobs start = fun _ => none) {calls : List Call} {last : Call}
    (standard : last.service.Standard)
    (obtained : ∀ call ∈ calls ++ [last], call.request.Obtained)
    (injective : Set.InjOn Digest.ofBytes
      {payload | ∃ call ∈ calls ++ [last], call.request.payload? = some payload})
    {manifest : Manifest} {skip : Bool} {digest : Digest}
    (put : last.serve (Call.serveAll start calls).2 =
      (.manifestPut manifest skip (.ok digest), after)) :
    (Visible last.service after digest manifest ↔
        ReportsOnly (Call.serveAll start calls).2 digest manifest.kind.mediaType) ∧
      ((∀ payload mediaType descriptor, manifest.payload = .ok payload →
          .blobPut mediaType payload.bytes (.ok descriptor) ∈ (Call.serveAll start calls).1 →
          mediaType = manifest.kind.mediaType) →
        Visible last.service after digest manifest) := by
  have kept : Kept _ ([] ++ (Call.serveAll start calls).1) (Call.serveAll start calls).2 :=
    Call.serveAll_preserves
      (fun call member => Kept.serve injective (obtained call (List.mem_append_left _ member))
        fun payload has => ⟨call, List.mem_append_left _ member, has⟩)
      [] (Kept.of_empty sound bare)
  have final : last ∈ calls ++ [last] := List.mem_append_right _ (List.mem_singleton_self last)
  have proper := obtained last final
  obtain ⟨service, request, interference⟩ := last
  cases request with
  | putBlob mediaType payload => cases put
  | putManifest manifest' skip' =>
    simp only [Call.serve] at put
    generalize ran : (service.put (σ := σ) .callers manifest' skip').runIn _ = outcome at put
    obtain ⟨result, ended⟩ := outcome
    cases put
    apply kept.visible_iff injective standard proper _ rfl ran
    intro payload payload_eq
    refine ⟨_, final, ?_⟩
    rw [Request.payload?, payload?_of_payload payload_eq]
    rfl

/-- Whatever was asked of a store that was empty at first, and however it was interfered with: a
manifest whose put was answered with a digest is found under the digest, with the same contents and
the same bytes, exactly when the store reported no other media type than that of its kind before. So
it is found whenever clients have put its bytes under no other media type. -/
theorem put_visible {σ : Type} [backend : Backend σ] {start after : σ}
    (empty : StartsEmpty σ backend start) {calls : List Call} {last : Call} {repository : String}
    {handlers : List Handler} (standard : last.service = .withHandlers repository .withDefaults handlers)
    (obtained : ∀ call ∈ calls ++ [last], call.request.Obtained)
    (injective : Set.InjOn Digest.ofBytes
      {payload | ∃ call ∈ calls ++ [last], call.request.payload? = some payload})
    {manifest : Manifest} {skip : Bool} {digest : Digest}
    (put : last.serve (Call.serveAll start calls).2 =
      (.manifestPut manifest skip (.ok digest), after)) :
    (Visible last.service after digest manifest ↔
        ReportsOnly (Call.serveAll start calls).2 digest manifest.kind.mediaType) ∧
      ((∀ payload mediaType descriptor, manifest.payload = .ok payload →
          .blobPut mediaType payload.bytes (.ok descriptor) ∈ (Call.serveAll start calls).1 →
          mediaType = manifest.kind.mediaType) →
        Visible last.service after digest manifest) := by
  have standard : last.service.Standard :=
    standard ▸ ManifestService.standard_withHandlers repository handlers
  cases empty with
  | memory => exact visible_of_empty trivial rfl standard obtained injective put
  | files root =>
    obtain ⟨sound, bare⟩ := FileStore.sound_empty root
    exact visible_of_empty sound bare standard obtained injective put

/-- There is no collision of one payload with itself. -/
theorem injOn_of_single {calls : List Call} {payload : Bytes}
    (single : ∀ call ∈ calls, call.request.payload? = some payload) :
    Set.InjOn Digest.ofBytes {payload | ∃ call ∈ calls, call.request.payload? = some payload} := by
  rintro a ⟨call, member, has⟩ b ⟨call', member', has'⟩ -
  rw [single call member] at has
  rw [single call' member'] at has'
  exact Option.some.inj (has.symm.trans has')

/-- An index that says no more than what it is, sealed and put. -/
theorem put_visible_bare_index :
    ∃ (last : Call) (manifest : Manifest) (digest : Digest) (after : MemoryStore),
      last.request = .putManifest manifest true ∧
      last.serve ({} : MemoryStore) = (.manifestPut manifest true (.ok digest), after) ∧
      Visible last.service after digest manifest := by
  let variant : Variant := .index { mediaType := Kind.index.mediaType }
  let manifest : Manifest := ⟨variant, some variant.canonicalPayload⟩
  let service : ManifestService := .withHandlers "library" .withDefaults ManifestService.defaultHandlers
  let last : Call := ⟨service, .putManifest manifest true, .none⟩
  have accepts : (Handler.plain .index).Accepts manifest variant.canonicalPayload none :=
    ⟨rfl, Variant.mediaTypeMatches_iff.mpr (.inl rfl), rfl, rfl⟩
  have inCharge : service.handlers manifest.kind = some (.plain .index) := rfl
  obtain ⟨after, put⟩ := MemoryStore.serve_putManifest_of_calm inCharge accepts {}
  have obtained : ∀ call ∈ [] ++ [last], call.request.Obtained :=
    List.forall_mem_singleton.mpr (.sealed (.draft variant) (ofVariant_eq variant))
  have single : ∀ call ∈ [] ++ [last], call.request.payload? = some variant.canonicalPayload.bytes :=
    List.forall_mem_singleton.mpr rfl
  obtain ⟨-, visible⟩ := put_visible .memory rfl obtained (injOn_of_single single) put
  refine ⟨last, manifest, _, after, rfl, put, ?_⟩
  apply visible
  intro payload mediaType descriptor _ happened
  cases happened

/-- The bytes of an index that are put as a plain text first. The put of the index succeeds as well,
and there is no manifest under the digest. -/
theorem put_hidden_by_text :
    ∃ (first last : Call) (manifest : Manifest) (payload : Payload) (after : MemoryStore),
      first.request = .putBlob "text/plain" payload.bytes ∧
      last.service = .withHandlers "library" .withDefaults ManifestService.defaultHandlers ∧
      manifest.payload = .ok payload ∧
      (∀ call ∈ [first] ++ [last], call.request.Obtained) ∧
      Set.InjOn Digest.ofBytes
        {payload | ∃ call ∈ [first] ++ [last], call.request.payload? = some payload} ∧
      last.serve (Call.serveAll ({} : MemoryStore) [first]).2 =
        (.manifestPut manifest true (.ok payload.digest), after) ∧
      ∀ (world : World MemoryStore) (token : Token), world.store = after →
        world.interference = .none →
        ((ManifestService.exists? token payload.digest).runIn world).1 = .ok false := by
  let variant : Variant := .index { mediaType := Kind.index.mediaType }
  let payload := variant.canonicalPayload
  let manifest : Manifest := ⟨variant, some payload⟩
  let service : ManifestService := .withHandlers "library" .withDefaults ManifestService.defaultHandlers
  let first : Call := ⟨service, .putBlob "text/plain" payload.bytes, .none⟩
  let last : Call := ⟨service, .putManifest manifest true, .none⟩
  have accepts : (Handler.plain .index).Accepts manifest payload none :=
    ⟨rfl, Variant.mediaTypeMatches_iff.mpr (.inl rfl), rfl, rfl⟩
  have inCharge : service.handlers manifest.kind = some (.plain .index) := rfl
  have obtained : ∀ call ∈ [first] ++ [last], call.request.Obtained :=
    List.forall_mem_cons.mpr ⟨trivial,
      List.forall_mem_singleton.mpr (.sealed (.draft variant) (ofVariant_eq variant))⟩
  have single : ∀ call ∈ [first] ++ [last], call.request.payload? = some payload.bytes :=
    List.forall_mem_cons.mpr ⟨rfl, List.forall_mem_singleton.mpr rfl⟩
  obtain ⟨descriptor, took⟩ :=
    MemoryStore.serve_putBlob_of_calm service "text/plain" payload.bytes {}
  have stored : (Call.serveAll ({} : MemoryStore) [first]).2 =
      ({} : MemoryStore).put "text/plain" payload.bytes := by
    simp only [Call.serveAll, first, took]
  have there : (({} : MemoryStore).put "text/plain" payload.bytes).blob? payload.digest =
      some ⟨"text/plain", payload.bytes⟩ := by
    rw [MemoryStore.blob?_put]
    exact if_pos rfl
  obtain ⟨after, put⟩ := MemoryStore.serve_putManifest_of_calm inCharge accepts
    (({} : MemoryStore).put "text/plain" payload.bytes)
  refine ⟨first, last, manifest, payload, after, rfl, rfl, rfl, obtained, injOn_of_single single,
    stored ▸ put, ?_⟩
  rintro world token rfl calm
  have still : world.store.blob? payload.digest = some ⟨"text/plain", payload.bytes⟩ := by
    have served := MemoryStore.served last (({} : MemoryStore).put "text/plain" payload.bytes)
    rw [put] at served
    exact served.blob?_eq there
  exact ManifestService.exists?_of_calm trivial calm token still

end ArtifactRegistry
