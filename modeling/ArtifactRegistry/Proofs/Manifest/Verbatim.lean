import ArtifactRegistry.Proofs.Manifest.Requests
import ArtifactRegistry.Proofs.Manifest.Routing
import ArtifactRegistry.Proofs.Storage.FileRepair

/-! # Documents are stored as they are received

A document that is read keeps its bytes, `payload_of_unmarshal`, and a put stores the payload of a
manifest under its own digest and adds at most one link. So on a backend whose puts can be read back
and touch no other blob, `AddressedBackend`, a document that was taken is there byte for byte under the
hash of its bytes, and all other digests are looked up as before: `putBytes_verbatim`. Files are such a
backend whatever they hold, and memory is in all states that requests lead to.
-/

namespace ArtifactRegistry

open Manifest ArtifactRegistry.Action

/-- A backend whose puts can be read back and leave all other blobs alone. -/
class AddressedBackend (σ : Type) [Backend σ] extends ReadingBackend σ where
  /-- What a put relies on. -/
  Orderly : σ → Prop
  /-- What a put has stored is there under its digest, and nothing else has changed. -/
  putBlob_ok {token : Token} {mediaType : String} {payload : Bytes} {descriptor : Descriptor}
    {world after : World σ} (orderly : Orderly world.store)
    (collisionFree : CollisionFree world.store payload)
    (ran : (Store.putBlob token mediaType payload).runIn world = (.ok descriptor, after)) :
    descriptor.digest = Digest.ofBytes payload ∧
      HasBlob after.store (Digest.ofBytes payload) payload ∧
      ∀ other, other ≠ Digest.ofBytes payload → SameLookups other world.store after.store
  /-- Links leave all blobs alone. -/
  addLink_ok {token : Token} {repository path : String} {subject digest : Digest}
    {world after : World σ} (derived : referrersLinkPath repository subject = .ok path)
    (ran : (Store.addLink token path digest).runIn world = (.ok (), after)) (other : Digest) :
    SameLookups other world.store after.store

/-! ## Memory -/

namespace MemoryStore

/-- Every blob is kept under its own digest. -/
def Keyed (store : MemoryStore) : Prop :=
  ∀ digest blob, store.blob? digest = some blob → Digest.ofBytes blob.bytes = digest

theorem Keyed.put {store : MemoryStore} (keyed : store.Keyed) (mediaType : String)
    (payload : Bytes) : (store.put mediaType payload).Keyed := by
  intro digest blob there
  rw [blob?_put] at there
  split at there
  · next same =>
    subst same
    cases before : store.blob? (Digest.ofBytes payload) with
    | none =>
      rw [before] at there
      cases there
      rfl
    | some old =>
      rw [before] at there
      cases there
      exact keyed _ _ before
  · exact keyed digest blob there

theorem Keyed.addLink {store : MemoryStore} (keyed : store.Keyed) (path : String)
    (digest : Digest) : (store.addLink path digest).Keyed := by
  intro other blob there
  rw [blob?_addLink] at there
  exact keyed other blob there

theorem Keyed.served {service : ManifestService} {store after : MemoryStore} {event : Event}
    (keyed : store.Keyed) (served : Served service store event after) : after.Keyed := by
  cases served with
  | blobRefused mediaType payload error => exact keyed
  | blobStored mediaType payload descriptor digest_eq => exact keyed.put mediaType payload
  | manifestPut skip effect =>
    cases effect with
    | refused error => exact keyed
    | stored inCharge accepts => exact keyed.put _ _
    | unlinked error inCharge accepts => exact keyed.put _ _
    | linked inCharge accepts => exact (keyed.put _ _).addLink _ _

/-- Whatever is requested, all blobs are kept under their own digests. -/
theorem keyed_serveAll (calls : List Call) : (Call.serveAll ({} : MemoryStore) calls).2.Keyed := by
  have initial : ({} : MemoryStore).Keyed := fun _ _ there => by cases there
  have step : ∀ call ∈ calls, ∀ (_ : List Event) (store : MemoryStore), store.Keyed →
      (call.serve store).2.Keyed := fun call _ _ store keyed => keyed.served (served call store)
  exact Call.serveAll_preserves step [] initial

/-- A payload that is put is kept, unless another with its digest was. -/
theorem hasBlob_put {store : MemoryStore} {payload : Bytes} (keyed : store.Keyed)
    (collisionFree : CollisionFree store payload) (mediaType : String) :
    HasBlob (store.put mediaType payload) (Digest.ofBytes payload) payload := by
  have sound : BlobBackend.Sound (store.put mediaType payload) := trivial
  have there : (store.put mediaType payload).blob? (Digest.ofBytes payload) =
      some ((store.blob? (Digest.ofBytes payload)).getD ⟨mediaType, payload⟩) := by
    rw [blob?_put, if_pos rfl]
  refine (hasBlob_iff sound).mpr ⟨_, there, ?_⟩
  cases before : store.blob? (Digest.ofBytes payload) with
  | none => rfl
  | some old =>
    have sound : BlobBackend.Sound store := trivial
    have has : HasBlob store (Digest.ofBytes payload) old.bytes :=
      (hasBlob_iff sound).mpr ⟨old, before, rfl⟩
    exact collisionFree old.bytes has (keyed _ old before)

instance : AddressedBackend MemoryStore where
  Orderly := Keyed
  putBlob_ok {token mediaType payload descriptor world after} keyed collisionFree ran := by
    obtain ⟨_, failed, -⟩ | ⟨_, ⟨⟩, digest_eq, stored⟩ := putBlob_ran ran
    · cases failed
    refine ⟨digest_eq, ?_, fun other differs => ?_⟩
    · exact stored ▸ hasBlob_put keyed collisionFree mediaType
    · apply sameLookups_of_blob?_eq
      rw [stored, blob?_put, if_neg differs]
  addLink_ok _ ran other := by
    obtain ⟨_, failed, -⟩ | ⟨-, linked⟩ := addLink_ran ran
    · cases failed
    · apply sameLookups_of_blob?_eq
      rw [linked, blob?_addLink]

end MemoryStore

/-! ## Files -/

namespace FileStore

/-- A link that is made leaves all blobs alone, whatever the files hold. -/
theorem looksSame_addLink {token : Token} {repository path : String} {subject digest : Digest}
    {world ended : World FileStore} (derived : referrersLinkPath repository subject = .ok path)
    (ran : (addLink token path digest).runIn world = (.ok (), ended)) (other : Digest) :
    LooksSame other world.store ended.store := by
  simp only [addLink, runIn_bind_eq_ok_iff, runIn_validated] at ran
  obtain ⟨⟨⟩, started, live, algorithm, _, validating, ⟨⟩, begun, making, writing⟩ := ran
  obtain ⟨-, rfl⟩ := Prod.mk.inj validating
  have store_eq : started.store = world.store := (ReadOnly.ensureLive token).store_eq live
  have apart : Apart other (FileTree.Path.ofText path ++ [algorithm.name, digest.hex]) := by
    obtain ⟨_, -, path_eq⟩ := ofText_referrersLinkPath derived
    rw [path_eq]
    exact Apart.of_links.append _
  generalize FileTree.Path.ofText path ++ [algorithm.name, digest.hex] = names at apart making writing
  obtain ⟨-, ⟨made, directory, -, rfl⟩ | ⟨error, failed⟩⟩ := makeDirectory_ran making
  rotate_left
  · cases failed
  obtain ⟨last, rfl, written⟩ := writeOnce_ok writing
  have first : LooksSame other started.store (withTree started made).store :=
    apart.looksSame_createDirectories directory
  have second : LooksSame other (withTree started made).store
      (withTree (withTree started made) last).store := by
    rcases written with created | rfl
    · exact apart.looksSame_createFile created
    · exact .refl
  exact store_eq ▸ first.trans second

instance : AddressedBackend FileStore where
  Orderly _ := True
  putBlob_ok {token mediaType payload descriptor world after} _ collisionFree ran := by
    obtain ⟨_, failed, -⟩ | ⟨returned, done, store_eq⟩ := call_ran ran
    · cases failed
    rw [store_eq]
    have has := hasBlob_of_putBlob collisionFree done
    obtain ⟨rfl, names, made, typed, last, named, steps, ends⟩ := putBlob_ok done
    refine ⟨rfl, has, fun other differs => ?_⟩
    rw [ends]
    exact (steps.looksSame (.of_other named differs)).sameLookups
  addLink_ok derived ran other := by
    obtain ⟨_, failed, -⟩ | ⟨returned, done, store_eq⟩ := call_ran ran
    · cases failed
    · rw [store_eq]
      exact (looksSame_addLink derived done other).sameLookups

end FileStore

/-! ## Documents -/

/-- All readers of a registry are those of kinds, under whatever media types. -/
def SchemaRegistry.OfKinds (registry : SchemaRegistry) : Prop :=
  ∀ mediaType reader, registry.lookup mediaType = .ok reader → ∃ kind : Kind, reader = kind.unmarshal

theorem SchemaRegistry.ofKinds_withDefaults : withDefaults.OfKinds := by
  intro mediaType reader found
  obtain ⟨kind, -, rfl⟩ := lookup_eq_ok found
  exact ⟨kind, rfl⟩

/-- A document that is read keeps its bytes. -/
theorem SchemaRegistry.OfKinds.payload_of_unmarshal {registry : SchemaRegistry}
    (ofKinds : registry.OfKinds) {contentType : String} {text : Bytes} {manifest : Manifest}
    {descriptor : Descriptor} (ran : registry.unmarshal contentType text = .ok (manifest, descriptor)) :
    ∃ payload, manifest.payload = .ok payload ∧ payload.bytes = text := by
  obtain ⟨mediaType, reader, -, found, read⟩ := unmarshal_ok_iff.mp ran
  obtain ⟨kind, rfl⟩ := ofKinds mediaType reader found
  obtain ⟨-, -, -, payload, kept, same⟩ := parse_eq_ok_iff.mp (unmarshal_kind_iff.mp read).1
  refine ⟨payload, ?_, same⟩
  rw [Manifest.payload, kept]

section Put

variable {σ : Type} [Backend σ] [AddressedBackend σ] {service : ManifestService} {token : Token}
  {skip : Bool} {digest : Digest} {world ended : World σ}

open AddressedBackend

/-- A put that succeeds has stored the payload of the manifest under its own digest, and nothing else
has changed. -/
theorem ManifestService.put_addressed {manifest : Manifest} {payload : Payload}
    (payload_eq : manifest.payload = .ok payload) (orderly : Orderly world.store)
    (collisionFree : CollisionFree world.store payload.bytes)
    (ran : (service.put token manifest skip).runIn world = (.ok digest, ended)) :
    digest = Digest.ofBytes payload.bytes ∧ HasBlob ended.store digest payload.bytes ∧
      ∀ other, other ≠ digest → SameLookups other world.store ended.store := by
  obtain ⟨error, failed, -⟩ | ⟨handler, -, went⟩ := putRun ran
  · cases failed
  generalize result_eq : (Except.ok digest : Except PutError Digest) = result at went
  cases went with
  | refused error same => cases result_eq
  | unstored accepts start_eq failed ends => cases result_eq
  | stored accepts start_eq took ends =>
    cases result_eq
    cases payload_eq.symm.trans accepts.payload_eq
    rw [← start_eq] at orderly collisionFree ⊢
    obtain ⟨digest_eq, has, others⟩ := putBlob_ok orderly collisionFree took
    rw [ends, digest_eq]
    exact ⟨rfl, has, others⟩
  | @linked _ _ path descriptor result start stored linking linked accepts start_eq took continues
      asked ends =>
    cases result with
    | error error => cases result_eq
    | ok _ =>
    cases result_eq
    cases payload_eq.symm.trans accepts.payload_eq
    rw [← start_eq] at orderly collisionFree ⊢
    obtain ⟨digest_eq, has, others⟩ := putBlob_ok orderly collisionFree took
    obtain ⟨repository, about, -, -, derived⟩ := accepts.linked
    have unlinked := addLink_ok derived asked
    rw [continues] at unlinked
    rw [ends, digest_eq]
    exact ⟨rfl, (unlinked _).hasBlob_iff.mpr has,
      fun other differs => (others other differs).trans (unlinked other)⟩

/-- A document that is taken is stored as it was received. -/
theorem ManifestService.putBytes_addressed {contentType : String} {text : Bytes}
    (ofKinds : service.registry.OfKinds) (orderly : Orderly world.store)
    (collisionFree : CollisionFree world.store text)
    (ran : (service.putBytes token contentType text skip).runIn world = (.ok digest, ended)) :
    digest = Digest.ofBytes text ∧ HasBlob ended.store digest text ∧
      ∀ other, other ≠ digest → SameLookups other world.store ended.store := by
  rw [putBytes] at ran
  cases read : service.registry.unmarshal contentType text with
  | error source =>
    rw [read] at ran
    cases ran
  | ok document =>
    obtain ⟨manifest, descriptor⟩ := document
    rw [read] at ran
    obtain ⟨payload, payload_eq, rfl⟩ := ofKinds.payload_of_unmarshal read
    exact put_addressed payload_eq orderly collisionFree ran

end Put

/-- The stores that a document can be put into: one in memory with the blobs that some requests have
left, and one in files that hold anything. -/
inductive MayHold : (σ : Type) → Backend σ → σ → Prop
  | memory (calls : List Call) (store : MemoryStore)
      (reached : store.blobs = (Call.serveAll ({} : MemoryStore) calls).2.blobs) :
      MayHold MemoryStore inferInstance store
  | files (store : FileStore) : MayHold FileStore inferInstance store

/-- Whatever a store holds and whatever interferes, a document that was taken is stored under the hash
of its bytes exactly as it was received, and all other digests are looked up as before. -/
theorem putBytes_verbatim {σ : Type} [backend : Backend σ] {world ended : World σ}
    (mayHold : MayHold σ backend world.store) {service : ManifestService}
    (ofKinds : service.registry.OfKinds) {token : Token} {contentType : String} {text : Bytes}
    {skip : Bool} {digest : Digest} (collisionFree : CollisionFree world.store text)
    (ran : (service.putBytes token contentType text skip).runIn world = (.ok digest, ended)) :
    digest = Digest.ofBytes text ∧ HasBlob ended.store digest text ∧
      ∀ other, other ≠ digest → SameLookups other world.store ended.store := by
  obtain ⟨start, store_eq⟩ : ∃ start, world.store = start := ⟨_, rfl⟩
  rw [store_eq] at mayHold
  cases mayHold with
  | memory calls _ reached =>
    have keyed : world.store.Keyed := by
      intro digest blob there
      rw [store_eq, MemoryStore.blob?, reached] at there
      exact MemoryStore.keyed_serveAll calls digest blob there
    exact ManifestService.putBytes_addressed ofKinds keyed collisionFree ran
  | files _ =>
    exact ManifestService.putBytes_addressed ofKinds trivial collisionFree ran

/-- An index with white space, an escape and a name that occurs twice, put where the data of its blob
are cut off. -/
theorem putBytes_verbatim_torn : ∃ (service : ManifestService) (text : Bytes) (digest : Digest)
    (ended : World FileStore),
    service.registry.OfKinds ∧ CollisionFree (FileStore.tornStore text) text ∧
    (service.putBytes .callers "application/json" text false).runIn
      { store := FileStore.tornStore text } = (.ok digest, ended) ∧
    HasBlob ended.store digest text := by
  let text : Bytes := Bytes.ofText ("\x7b \"mediaType\" : " ++
    "\"application/vnd.oci.image.index.v1+json\", \"odd\" : 1, \"\\u006fdd\" : 2 \x7d\n")
  let service := ManifestService.withHandlers "library" .withDefaults ManifestService.defaultHandlers
  have ofKinds : service.registry.OfKinds := SchemaRegistry.ofKinds_withDefaults
  have collisionFree : CollisionFree (FileStore.tornStore text) text :=
    FileStore.collisionFree_tornStore (by decide +kernel)
  have succeeds : ((service.putBytes .callers "application/json" text false).runIn
      { store := FileStore.tornStore text }).1.isOk = true := by decide +kernel
  obtain ⟨digest, ended, ran⟩ := exists_ended_of_isOk succeeds
  obtain ⟨-, has, -⟩ :=
    putBytes_verbatim (.files (FileStore.tornStore text)) ofKinds collisionFree ran
  exact ⟨service, text, digest, ended, ofKinds, collisionFree, ran, has⟩

end ArtifactRegistry
