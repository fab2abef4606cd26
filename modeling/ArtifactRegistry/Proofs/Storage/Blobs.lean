import ArtifactRegistry.Proofs.Storage.Memory
import ArtifactRegistry.Storage.FileStore
import ArtifactRegistry.Storage.LinkPath

/-! # What a store of blobs keeps

The blobs of a store form a map from digests, in which the first put of a payload settles its media
type. `BlobBackend` says what every operation of a store does to this map, apart from how the store
keeps it, so results about manifests are proved once for all backends.
-/

namespace ArtifactRegistry

open ArtifactRegistry.Action

/-- What is kept under every digest. -/
abbrev Blobs := Digest → Option StoredBlob

/-- A put keeps the payload unless it is there already. -/
def Blobs.put (blobs : Blobs) (mediaType : String) (payload : Bytes) : Blobs := fun digest =>
  if digest = Digest.ofBytes payload then some ((blobs digest).getD ⟨mediaType, payload⟩)
  else blobs digest

/-- No other payload is kept under the digest of a payload. -/
def Blobs.Genuine (blobs : Blobs) (payload : Bytes) : Prop :=
  ∀ blob, blobs (Digest.ofBytes payload) = some blob → blob.bytes = payload

/-- What is kept stays kept. -/
theorem Blobs.put_of_some {blobs : Blobs} {digest : Digest} {blob : StoredBlob}
    (there : blobs digest = some blob) (mediaType : String) (payload : Bytes) :
    blobs.put mediaType payload digest = some blob := by
  rw [put, there]
  split <;> rfl

/-- After a put, the payload is kept. -/
theorem Blobs.Genuine.put_self {blobs : Blobs} {payload : Bytes} (genuine : blobs.Genuine payload)
    (mediaType : String) :
    ∃ blob, blobs.put mediaType payload (Digest.ofBytes payload) = some blob ∧
      blob.bytes = payload := by
  rw [put, if_pos rfl]
  cases before : blobs (Digest.ofBytes payload) with
  | none => exact ⟨_, rfl, rfl⟩
  | some blob => exact ⟨blob, rfl, genuine blob before⟩

/-- What is there stays there under its media type. A payload gives way at most to another with the same
digest. -/
def Blobs.Retains (before after : Blobs) : Prop :=
  ∀ digest blob, before digest = some blob → ∃ bytes, after digest = some { blob with bytes }

theorem Blobs.Retains.refl (blobs : Blobs) : blobs.Retains blobs :=
  fun _ blob there => ⟨blob.bytes, there⟩

theorem Blobs.Retains.trans {before middle after : Blobs} (first : before.Retains middle)
    (second : middle.Retains after) : before.Retains after := by
  intro digest blob there
  obtain ⟨bytes, between⟩ := first digest blob there
  obtain ⟨bytes', last⟩ := second digest _ between
  exact ⟨bytes', last⟩

/-- A change under one digest keeps all blobs if it keeps the one under the digest. -/
theorem Blobs.retains_of_one {before : Blobs} {digest : Digest} {blob : Option StoredBlob}
    (kept : ∀ old, before digest = some old → ∃ bytes, blob = some { old with bytes }) :
    before.Retains fun other => if other = digest then blob else before other := by
  intro other old there
  by_cases same : other = digest
  · rw [same] at there
    simp only [if_pos same]
    exact kept old there
  · simp only [if_neg same]
    exact ⟨old.bytes, there⟩

/-- What a blob is reported as. A store in files has no media type for a blob that was put without
one. -/
def StoredBlob.ReportedAs (blob : StoredBlob) (descriptor : Descriptor) : Prop :=
  descriptor.mediaType = blob.mediaType ∨
    blob.mediaType = "" ∧ descriptor.mediaType = FileStore.unknownMediaType

/-- A backend that keeps blobs under their digests. -/
class BlobBackend (σ : Type) [Backend σ] extends ReadingBackend σ where
  /-- What every operation relies on and keeps up. -/
  Sound : σ → Prop
  blobs : σ → Blobs
  /-- A put fails and changes no blob, or keeps the payload. -/
  putBlob_ran {token : Token} {mediaType : String} {payload : Bytes} {world after : World σ}
    {result : Except StorageError Descriptor} (sound : Sound world.store)
    (genuine : (blobs world.store).Genuine payload)
    (ran : (Store.putBlob token mediaType payload).runIn world = (result, after)) :
    Sound after.store ∧
      ((∃ error, result = .error error) ∧ blobs after.store = blobs world.store ∨
        (∃ descriptor, result = .ok descriptor ∧ descriptor.digest = Digest.ofBytes payload) ∧
          blobs after.store = (blobs world.store).put mediaType payload)
  /-- Links are kept apart from blobs. -/
  addLink_ran {token : Token} {repository path : String} {subject digest : Digest}
    {world after : World σ} {result : Except StorageError Unit} (sound : Sound world.store)
    (derived : referrersLinkPath repository subject = .ok path)
    (ran : (Store.addLink token path digest).runIn world = (result, after)) :
    Sound after.store ∧ blobs after.store = blobs world.store
  /-- With nothing in the way, what is not there is not reported. -/
  statBlob_of_none {world : World σ} {digest : Digest} (sound : Sound world.store)
    (calm : world.interference = .none) (token : Token) (missing : blobs world.store digest = none) :
    ∃ error, ((Store.statBlob token digest).runIn world).1 = .error error
  /-- With nothing in the way, a blob that is there is reported. -/
  statBlob_of_some {world : World σ} {digest : Digest} {blob : StoredBlob}
    (sound : Sound world.store) (calm : world.interference = .none) (token : Token)
    (there : blobs world.store digest = some blob) :
    ∃ descriptor, ((Store.statBlob token digest).runIn world).1 = .ok descriptor ∧
      blob.ReportedAs descriptor
  /-- With nothing in the way, what is not there is not returned. -/
  getBlob_of_none {world : World σ} {digest : Digest} (sound : Sound world.store)
    (calm : world.interference = .none) (token : Token) (missing : blobs world.store digest = none) :
    ∃ error, ((Store.getBlob token digest).runIn world).1 = .error error
  /-- With nothing in the way, a blob that is there is returned. -/
  getBlob_of_some {world : World σ} {digest : Digest} {blob : StoredBlob}
    (sound : Sound world.store) (calm : world.interference = .none) (token : Token)
    (there : blobs world.store digest = some blob) :
    ((Store.getBlob token digest).runIn world).1 = .ok blob.bytes

namespace BlobBackend

variable {σ : Type} [Backend σ] [BlobBackend σ] {token : Token} {mediaType : String} {payload : Bytes}
  {world after : World σ}

/-- A put that succeeds keeps the payload. -/
theorem putBlob_ok {descriptor : Descriptor} (sound : Sound world.store)
    (genuine : (blobs world.store).Genuine payload)
    (ran : (Store.putBlob token mediaType payload).runIn world = (.ok descriptor, after)) :
    Sound after.store ∧ descriptor.digest = Digest.ofBytes payload ∧
      blobs after.store = (blobs world.store).put mediaType payload := by
  obtain ⟨sound', ⟨⟨error, failed⟩, -⟩ | ⟨⟨_, stored, digest_eq⟩, kept⟩⟩ :=
    putBlob_ran sound genuine ran
  · cases failed
  · cases stored
    exact ⟨sound', digest_eq, kept⟩

/-- A put that fails changes no blob. -/
theorem putBlob_error {error : StorageError} (sound : Sound world.store)
    (genuine : (blobs world.store).Genuine payload)
    (ran : (Store.putBlob token mediaType payload).runIn world = (.error error, after)) :
    Sound after.store ∧ blobs after.store = blobs world.store := by
  obtain ⟨sound', ⟨-, same⟩ | ⟨⟨descriptor, stored, -⟩, -⟩⟩ := putBlob_ran sound genuine ran
  · exact ⟨sound', same⟩
  · cases stored

end BlobBackend

/-- A backend in which blobs stay what they are reported as, whatever interferes and even when payloads
share a digest. -/
class SteadyBackend (σ : Type) [Backend σ] [BlobBackend σ] : Prop where
  /-- What is reported is there. -/
  statBlob_reports {world after : World σ} {digest : Digest} {token : Token} {descriptor : Descriptor}
    (sound : BlobBackend.Sound world.store)
    (ran : (Store.statBlob token digest).runIn world = (.ok descriptor, after)) :
    ∃ blob, BlobBackend.blobs world.store digest = some blob ∧ blob.ReportedAs descriptor
  /-- A put takes no blob away and changes no media type. -/
  putBlob_retains {token : Token} {mediaType : String} {payload : Bytes} {world after : World σ}
    {result : Except StorageError Descriptor} (sound : BlobBackend.Sound world.store)
    (ran : (Store.putBlob token mediaType payload).runIn world = (result, after)) :
    BlobBackend.Sound after.store ∧
      (BlobBackend.blobs world.store).Retains (BlobBackend.blobs after.store)

namespace MemoryStore

instance : BlobBackend MemoryStore where
  Sound _ := True
  blobs := blob?
  putBlob_ran _ _ ran := by
    refine ⟨trivial, ?_⟩
    obtain ⟨error, failed, same⟩ | ⟨descriptor, stored, digest_eq, store_eq⟩ := putBlob_ran ran
    · exact .inl ⟨⟨error, failed⟩, by rw [same]⟩
    · refine .inr ⟨⟨descriptor, stored, digest_eq⟩, funext fun digest => ?_⟩
      rw [store_eq, blob?_put, Blobs.put]
  addLink_ran _ _ ran := by
    refine ⟨trivial, funext fun digest => ?_⟩
    obtain ⟨error, -, same⟩ | ⟨-, linked⟩ := addLink_ran ran
    · rw [same]
    · rw [linked, blob?_addLink]
  statBlob_of_none {world} _ _ calm token missing := by
    obtain ⟨looks, looked⟩ := runIn_ensureLive_of_calm calm token
    rw [Store.statBlob, runIn_call_of_calm calm]
    simp only [Backend.statBlob, runIn_bind, looked, runIn_stat, missing]
    exact ⟨_, rfl⟩
  statBlob_of_some _ calm token there := by
    obtain ⟨looks, looked⟩ := runIn_ensureLive_of_calm calm token
    rw [Store.statBlob, runIn_call_of_calm calm]
    simp only [Backend.statBlob, runIn_bind, looked, runIn_stat, there]
    exact ⟨_, rfl, .inl rfl⟩
  getBlob_of_none _ calm token missing := by
    obtain ⟨looks, looked⟩ := runIn_ensureLive_of_calm calm token
    rw [Store.getBlob, runIn_call_of_calm calm]
    simp only [Backend.getBlob, runIn_bind, looked, runIn_get, missing]
    exact ⟨_, rfl⟩
  getBlob_of_some _ calm token there := by
    obtain ⟨looks, looked⟩ := runIn_ensureLive_of_calm calm token
    rw [Store.getBlob, runIn_call_of_calm calm]
    simp only [Backend.getBlob, runIn_bind, looked, runIn_get, there]
    rfl

instance : SteadyBackend MemoryStore where
  statBlob_reports {world after digest token descriptor} _ ran := by
    rw [Store.statBlob, runIn_call] at ran
    split at ran
    · cases ran
    obtain ⟨looks, live | fired⟩ := runIn_ensureLive token world
    · simp only [Backend.statBlob, runIn_bind, live, runIn_stat] at ran
      change ∃ blob, world.store.blob? digest = some blob ∧ _
      cases there : world.store.blob? digest with
      | none =>
        rw [there] at ran
        cases ran
      | some blob =>
        rw [there] at ran
        cases ran
        exact ⟨blob, rfl, .inl rfl⟩
    · simp only [Backend.statBlob, runIn_bind, fired] at ran
      cases ran
  putBlob_retains {token mediaType payload world after result} _ ran := by
    refine ⟨trivial, fun digest blob there => ⟨blob.bytes, ?_⟩⟩
    obtain ⟨error, -, same⟩ | ⟨descriptor, -, -, stored⟩ := putBlob_ran ran
    · rw [same]
      exact there
    · rw [stored]
      exact blob?_put_of_some there

end MemoryStore

/-! ## Blobs as clients see them -/

/-- With nothing in the way, a payload is returned for a digest. -/
def HasBlob {σ : Type} [Backend σ] (store : σ) (digest : Digest) (payload : Bytes) : Prop :=
  ∀ token, Answers store (Store.getBlob token digest) (.ok payload)

theorem hasBlob_iff {σ : Type} [Backend σ] [BlobBackend σ] {store : σ}
    (sound : BlobBackend.Sound store) {digest : Digest} {payload : Bytes} :
    HasBlob store digest payload ↔
      ∃ blob, BlobBackend.blobs store digest = some blob ∧ blob.bytes = payload := by
  constructor
  · intro has
    obtain ⟨after, ran, -⟩ := has .fresh { store } rfl rfl
    have sound : BlobBackend.Sound ({ store } : World σ).store := sound
    cases there : BlobBackend.blobs store digest with
    | none =>
      obtain ⟨error, failed⟩ := BlobBackend.getBlob_of_none sound rfl .fresh there
      rw [ran] at failed
      cases failed
    | some blob =>
      have returned := BlobBackend.getBlob_of_some sound rfl .fresh there
      rw [ran] at returned
      cases returned
      exact ⟨blob, rfl, rfl⟩
  · rintro ⟨blob, there, rfl⟩ token
    apply (Store.getBlob_readOnly token digest).answers
    rintro world rfl calm
    exact BlobBackend.getBlob_of_some sound calm token there

/-- With nothing in the way, a digest is looked up alike in two stores. -/
structure SameLookups {σ : Type} [Backend σ] (digest : Digest) (before after : σ) : Prop where
  statBlob_iff (token : Token) (result : Except StorageError Descriptor) :
    Answers after (Store.statBlob token digest) result ↔
      Answers before (Store.statBlob token digest) result
  getBlob_iff (token : Token) (result : Except StorageError Bytes) :
    Answers after (Store.getBlob token digest) result ↔
      Answers before (Store.getBlob token digest) result

namespace SameLookups

variable {σ : Type} [Backend σ] {digest : Digest} {before middle after : σ}

protected theorem refl (store : σ) : SameLookups digest store store :=
  ⟨fun _ _ => .rfl, fun _ _ => .rfl⟩

protected theorem trans (first : SameLookups digest before middle)
    (second : SameLookups digest middle after) : SameLookups digest before after :=
  ⟨fun token result => (second.statBlob_iff token result).trans (first.statBlob_iff token result),
    fun token result => (second.getBlob_iff token result).trans (first.getBlob_iff token result)⟩

/-- Stores whose lookups have the same answers look up alike. -/
theorem of_answers {described : Except StorageError Descriptor} {loaded : Except StorageError Bytes}
    (stat : ∀ token, Answers before (Store.statBlob token digest) described)
    (stat' : ∀ token, Answers after (Store.statBlob token digest) described)
    (get : ∀ token, Answers before (Store.getBlob token digest) loaded)
    (get' : ∀ token, Answers after (Store.getBlob token digest) loaded) :
    SameLookups digest before after := by
  constructor
  · intro token result
    constructor
    · intro answers
      exact answers.unique (stat' token) ▸ stat token
    · intro answers
      exact answers.unique (stat token) ▸ stat' token
  · intro token result
    constructor
    · intro answers
      exact answers.unique (get' token) ▸ get token
    · intro answers
      exact answers.unique (get token) ▸ get' token

theorem hasBlob_iff (same : SameLookups digest before after) {payload : Bytes} :
    HasBlob after digest payload ↔ HasBlob before digest payload :=
  forall_congr' fun token => same.getBlob_iff token _

end SameLookups

/-- Blobs that are the same in memory are looked up alike. -/
theorem MemoryStore.sameLookups_of_blob?_eq {before after : MemoryStore} {digest : Digest}
    (same : after.blob? digest = before.blob? digest) : SameLookups digest before after :=
  .of_answers (before.statBlob_answers · digest) (same ▸ after.statBlob_answers · digest)
    (before.getBlob_answers · digest) (same ▸ after.getBlob_answers · digest)

end ArtifactRegistry
