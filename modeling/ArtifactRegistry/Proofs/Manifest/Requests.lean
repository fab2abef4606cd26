import ArtifactRegistry.Proofs.Storage.Memory

/-! # Requests one after the other

Clients put blobs and manifests, one request at a time, through services that share a store, and
every request may be interfered with in its own way. `Call.serveAll` serves a sequence of calls and
returns what happened and the store in the end, so the states that a store can be in are those that
it ends with. A property that every single call preserves holds in all of them,
`Call.serveAll_preserves`.
-/

namespace ArtifactRegistry

open Manifest ArtifactRegistry.Action

/-- What clients ask for. -/
inductive Request where
  | putBlob (mediaType : String) (payload : Bytes)
  | putManifest (manifest : Manifest) (skip : Bool)

/-- A request, the service that gets it, and what interferes while it is served. -/
structure Call where
  service : ManifestService
  request : Request
  interference : Interference := .none

/-- A request together with the answer. -/
inductive Event where
  | blobPut (mediaType : String) (payload : Bytes) (result : Except StorageError Descriptor)
  | manifestPut (manifest : Manifest) (skip : Bool) (result : Except PutError Digest)

namespace Call

variable {σ : Type} [Backend σ]

/-- Serves one call with a token that the caller holds. -/
def serve (store : σ) (call : Call) : Event × σ :=
  let world : World σ := { store, interference := call.interference }
  match call.request with
  | .putBlob mediaType payload =>
    let (result, after) := (Store.putBlob .callers mediaType payload).runIn world
    (.blobPut mediaType payload result, after.store)
  | .putManifest manifest skip =>
    let (result, after) := (call.service.put .callers manifest skip).runIn world
    (.manifestPut manifest skip result, after.store)

/-- Serves calls from left to right: what happened, and the store in the end. -/
def serveAll (store : σ) : List Call → List Event × σ
  | [] => ([], store)
  | call :: rest =>
    let (event, next) := call.serve store
    let (events, last) := serveAll next rest
    (event :: events, last)

/-- What every call preserves, given what happened before it, holds after any number of calls. -/
theorem serveAll_preserves {Holds : List Event → σ → Prop} {calls : List Call}
    (step : ∀ call ∈ calls, ∀ past store, Holds past store →
      Holds (past ++ [(call.serve store).1]) (call.serve store).2)
    (past : List Event) {store : σ} (initial : Holds past store) :
    Holds (past ++ (serveAll store calls).1) (serveAll store calls).2 := by
  induction calls generalizing past store with
  | nil => simpa only [serveAll, List.append_nil] using initial
  | cons call rest ih =>
    obtain ⟨now, later⟩ := List.forall_mem_cons.mp step
    have served := ih later _ (now past store initial)
    rwa [List.append_assoc, List.singleton_append] at served

end Call

namespace MemoryStore

variable {service : ManifestService}

/-- What a put of a manifest can do to the store in memory. -/
inductive PutEffect (service : ManifestService) (manifest : Manifest) (store : MemoryStore) :
    Except PutError Digest → MemoryStore → Prop
  | refused (error : PutError) : PutEffect service manifest store (.error error) store
  | stored {handler : Handler} {payload : Payload}
      (inCharge : service.handlers manifest.kind = some handler)
      (accepts : handler.Accepts manifest payload none) :
      PutEffect service manifest store (.ok payload.digest)
        (store.put manifest.kind.mediaType payload.bytes)
  | unlinked {handler : Handler} {payload : Payload} {path : String} (error : PutError)
      (inCharge : service.handlers manifest.kind = some handler)
      (accepts : handler.Accepts manifest payload (some path)) :
      PutEffect service manifest store (.error error)
        (store.put manifest.kind.mediaType payload.bytes)
  | linked {handler : Handler} {payload : Payload} {path : String}
      (inCharge : service.handlers manifest.kind = some handler)
      (accepts : handler.Accepts manifest payload (some path)) :
      PutEffect service manifest store (.ok payload.digest)
        ((store.put manifest.kind.mediaType payload.bytes).addLink path payload.digest)

theorem put_effect {token : Token} {manifest : Manifest} {skip : Bool}
    {world after : World MemoryStore} {result : Except PutError Digest}
    (ran : (service.put token manifest skip).runIn world = (result, after)) :
    PutEffect service manifest world.store result after.store := by
  obtain ⟨error, rfl, same⟩ | ⟨handler, inCharge, went⟩ := ManifestService.putRun ran
  · exact same ▸ .refused error
  cases went with
  | refused error same => exact same ▸ .refused error
  | unstored accepts start_eq failed ends =>
    obtain ⟨_, _, same⟩ | ⟨_, taken, _⟩ := putBlob_ran failed
    · rw [ends, same, start_eq]
      exact .refused _
    · cases taken
  | stored accepts start_eq took ends =>
    obtain ⟨_, taken, _⟩ | ⟨_, taken, digest_eq, store_eq⟩ := putBlob_ran took
    · cases taken
    cases taken
    rw [ends, store_eq, start_eq, digest_eq]
    exact .stored inCharge accepts
  | linked accepts start_eq took continues linking ends =>
    obtain ⟨_, taken, _⟩ | ⟨_, taken, digest_eq, store_eq⟩ := putBlob_ran took
    · cases taken
    cases taken
    rw [start_eq] at store_eq
    obtain ⟨error, rfl, same⟩ | ⟨rfl, linked⟩ := addLink_ran linking
    · rw [ends, same, continues, store_eq]
      exact .unlinked _ inCharge accepts
    · rw [ends, linked, continues, store_eq, digest_eq]
      exact .linked inCharge accepts

private theorem store_of_calm {manifest : Manifest} {payload : Payload} {kind : Manifest.Kind}
    {token : Token} {world after : World MemoryStore} {result : Except PutError Digest}
    (payload_eq : manifest.payload = .ok payload)
    (ran : (Handler.store kind token manifest).runIn world = (result, after))
    (calm : world.interference = .none) :
    result = .ok payload.digest ∧ after.interference = .none := by
  obtain ⟨looks, looked⟩ := runIn_isCancelled_of_calm (ε := PutError) calm token
  obtain ⟨descriptor, stored, took, digest_eq, calmly⟩ :=
    putBlob_of_calm (show ({ world with looks } : World MemoryStore).interference = .none from calm)
      token manifest.kind.mediaType payload.bytes
  simp only [Handler.store, runIn_bind, looked, Bool.false_eq_true, if_false, payload_eq,
    runIn_outcome, took] at ran
  cases ran
  exact ⟨congrArg Except.ok digest_eq, calmly⟩

/-- With nothing in the way, a put succeeds when the dependencies are satisfied or not asked for. -/
theorem put_of_verified {handler : Handler} {manifest : Manifest} {payload : Payload}
    {path? : Option String} {skip : Bool} {world : World MemoryStore}
    (calm : world.interference = .none)
    (inCharge : service.handlers manifest.kind = some handler)
    (accepts : handler.Accepts manifest payload path?) {token : Token}
    (verified : skip = true ∨ Answers world.store
      (verifyDependencies ManifestService.exists? token manifest.variant) (.ok ())) :
    ((service.put token manifest skip).runIn world).1 = .ok payload.digest := by
  obtain ⟨kind_eq, mediaTypeMatches, payload_eq, link_eq⟩ := accepts
  have checked : Answers world.store
      (Handler.check handler.kind ManifestService.exists? token manifest skip) (.ok ()) := by
    intro world same calm
    rw [Handler.runIn_check, if_neg (not_not_intro kind_eq), mediaTypeMatches]
    rcases verified with rfl | verified
    · exact ⟨world, rfl, same, calm⟩
    · cases skip with
      | true => exact ⟨world, rfl, same, calm⟩
      | false => exact verified world same calm
  cases handler with
  | plain kind =>
    simp only [ManifestService.put, inCharge, Handler.put, runIn_bind, runIn_record]
    generalize recorded : World.mk world.store world.interference _ _ _ = start
    obtain ⟨middle, ran, -, calmly⟩ := checked start (by rw [← recorded]) (by rw [← recorded, calm])
    rw [Handler.kind] at ran
    simp only [ran]
    generalize storing : (Handler.store (σ := MemoryStore) _ token manifest).runIn _ = outcome
    obtain ⟨result, after⟩ := outcome
    obtain ⟨rfl, -⟩ := store_of_calm payload_eq storing calmly
    rfl
  | referrers repository =>
    change Handler.linkPath? repository manifest = _ at link_eq
    simp only [ManifestService.put, inCharge, Handler.put, runIn_bind, runIn_record, link_eq]
    generalize recorded : World.mk world.store world.interference _ _ _ = start
    obtain ⟨middle, ran, -, calmly⟩ := checked start (by rw [← recorded]) (by rw [← recorded, calm])
    rw [Handler.kind] at ran
    simp only [ran]
    generalize storing : (Handler.store (σ := MemoryStore) _ token manifest).runIn _ = outcome
    obtain ⟨result, after⟩ := outcome
    obtain ⟨rfl, calmly⟩ := store_of_calm payload_eq storing calmly
    cases path? with
    | none => rfl
    | some path =>
      obtain ⟨last, linked⟩ := addLink_of_calm calmly .fresh path payload.digest
      simp only [runIn_bind, runIn_withErrors, linked, runIn_record]
      rfl

/-- What serving a call can do to the store in memory. -/
inductive Served (service : ManifestService) (store : MemoryStore) : Event → MemoryStore → Prop
  | blobRefused (mediaType : String) (payload : Bytes) (error : StorageError) :
      Served service store (.blobPut mediaType payload (.error error)) store
  | blobStored (mediaType : String) (payload : Bytes) (descriptor : Descriptor)
      (digest_eq : descriptor.digest = Digest.ofBytes payload) :
      Served service store (.blobPut mediaType payload (.ok descriptor))
        (store.put mediaType payload)
  | manifestPut {manifest : Manifest} {result : Except PutError Digest} {after : MemoryStore}
      (skip : Bool) (effect : PutEffect service manifest store result after) :
      Served service store (.manifestPut manifest skip result) after

theorem served (call : Call) (store : MemoryStore) :
    Served call.service store (call.serve store).1 (call.serve store).2 := by
  obtain ⟨service, request, interference⟩ := call
  cases request with
  | putBlob mediaType payload =>
    simp only [Call.serve]
    generalize ran : (Store.putBlob (σ := MemoryStore) .callers mediaType payload).runIn _ = outcome
    obtain ⟨result, after⟩ := outcome
    obtain ⟨error, rfl, same⟩ | ⟨descriptor, rfl, digest_eq, stored⟩ := putBlob_ran ran
    · rw [same]
      exact .blobRefused mediaType payload error
    · rw [stored]
      exact .blobStored mediaType payload descriptor digest_eq
  | putManifest manifest skip =>
    simp only [Call.serve]
    generalize ran : (service.put (σ := MemoryStore) .callers manifest skip).runIn _ = outcome
    obtain ⟨result, after⟩ := outcome
    exact .manifestPut skip (put_effect ran)

/-- With nothing in the way, a blob that a client puts is kept. -/
theorem serve_putBlob_of_calm (service : ManifestService) (mediaType : String) (payload : Bytes)
    (store : MemoryStore) : ∃ descriptor,
      (⟨service, .putBlob mediaType payload, .none⟩ : Call).serve store =
        (.blobPut mediaType payload (.ok descriptor), store.put mediaType payload) := by
  have calm : ({ store } : World MemoryStore).interference = .none := rfl
  obtain ⟨descriptor, after, took, -⟩ := putBlob_of_calm calm .callers mediaType payload
  obtain ⟨error, refused, -⟩ | ⟨_, stored, -, store_eq⟩ := putBlob_ran took
  · cases refused
  · refine ⟨descriptor, ?_⟩
    simp only [Call.serve]
    rw [took, store_eq]

/-- With nothing in the way, a manifest that passes the checks of its handler is put when its
dependencies are satisfied. -/
theorem serve_putManifest_of_verified {handler : Handler} {manifest : Manifest} {payload : Payload}
    {path? : Option String} {skip : Bool} {store : MemoryStore}
    (inCharge : service.handlers manifest.kind = some handler)
    (accepts : handler.Accepts manifest payload path?)
    (verified : skip = true ∨ Answers store
      (verifyDependencies ManifestService.exists? .callers manifest.variant) (.ok ())) : ∃ after,
      (⟨service, .putManifest manifest skip, .none⟩ : Call).serve store =
        (.manifestPut manifest skip (.ok payload.digest), after) := by
  have calm : ({ store } : World MemoryStore).interference = .none := rfl
  have stored := put_of_verified calm inCharge accepts verified
  simp only [Call.serve, stored]
  exact ⟨_, rfl⟩

/-- With nothing in the way, a manifest that passes the checks of its handler is put. -/
theorem serve_putManifest_of_calm {handler : Handler} {manifest : Manifest} {payload : Payload}
    {path? : Option String} (inCharge : service.handlers manifest.kind = some handler)
    (accepts : handler.Accepts manifest payload path?) (store : MemoryStore) : ∃ after,
      (⟨service, .putManifest manifest true, .none⟩ : Call).serve store =
        (.manifestPut manifest true (.ok payload.digest), after) :=
  serve_putManifest_of_verified inCharge accepts (.inl rfl)

/-- An artifact with a link path whose put is not stopped before its payload is stored. The second call
of the store makes the link, and nothing but the medium can stop it, whatever the token does. -/
theorem serve_artifact {repository path : String} {manifest : Manifest} {payload : Payload}
    {interference : Interference}
    (inCharge : service.handlers manifest.kind = some (.referrers repository))
    (accepts : (Handler.referrers repository).Accepts manifest payload (some path))
    (live : ∀ looks, interference.fired 0 looks = false) (first : interference.fails 1 = false)
    (store : MemoryStore) :
    (⟨service, .putManifest manifest true, interference⟩ : Call).serve store =
      if interference.fails 2 then
        (.manifestPut manifest true (.error (.storage (.medium .injected))),
          store.put manifest.kind.mediaType payload.bytes)
      else
        (.manifestPut manifest true (.ok payload.digest),
          (store.put manifest.kind.mediaType payload.bytes).addLink path payload.digest) := by
  obtain ⟨kind_eq, mediaTypeMatches, payload_eq, link_eq⟩ := accepts
  have checked (world : World MemoryStore) :
      (Handler.check .artifact ManifestService.exists? .callers manifest true).runIn world =
        (.ok (), world) := by
    simp only [Handler.kind] at kind_eq
    simp [Handler.check, kind_eq, mediaTypeMatches]
  change Handler.linkPath? repository manifest = _ at link_eq
  simp only [Call.serve, ManifestService.put, inCharge, Handler.put, runIn_bind, runIn_record, checked,
    link_eq, Handler.store, runIn_isCancelled_callers, live, payload_eq, Bool.false_eq_true, if_false,
    runIn_outcome, Store.putBlob, runIn_call, Nat.zero_add, first, Backend.putBlob, ensureLive,
    runIn_modify, runIn_stat, runIn_pure, blob?_put, if_true, Option.elim_some, runIn_withErrors,
    Store.addLink, Backend.addLink, runIn_isCancelled_fresh]
  cases interference.fails 2 with
  | true => rfl
  | false => rfl

/-- No request takes a member out of a set. -/
theorem Served.mem_members {event : Event} {store after : MemoryStore}
    (served : Served service store event after) {path : String} {digest : Digest}
    (there : digest ∈ store.members path) : digest ∈ after.members path := by
  cases served with
  | blobRefused mediaType payload error => exact there
  | blobStored mediaType payload descriptor digest_eq => rwa [members_put]
  | manifestPut skip effect =>
    cases effect with
    | refused error => exact there
    | stored inCharge accepts => rwa [members_put]
    | unlinked error inCharge accepts => rwa [members_put]
    | linked inCharge accepts => exact mem_members_addLink_of_mem (by rwa [members_put])

/-- No request changes a blob that is there. -/
theorem Served.blob?_eq {event : Event} {store after : MemoryStore}
    (served : Served service store event after) {digest : Digest} {blob : StoredBlob}
    (there : store.blob? digest = some blob) : after.blob? digest = some blob := by
  cases served with
  | blobRefused mediaType payload error => exact there
  | blobStored mediaType payload descriptor digest_eq => exact blob?_put_of_some there
  | manifestPut skip effect =>
    cases effect with
    | refused error => exact there
    | stored inCharge accepts => exact blob?_put_of_some there
    | unlinked error inCharge accepts => exact blob?_put_of_some there
    | linked inCharge accepts =>
      rw [blob?_addLink]
      exact blob?_put_of_some there

end MemoryStore

end ArtifactRegistry
