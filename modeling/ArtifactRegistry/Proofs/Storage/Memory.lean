import ArtifactRegistry.Proofs.Digest
import ArtifactRegistry.Proofs.Manifest.Put
import ArtifactRegistry.Storage.Memory

/-! # The store in memory as two maps

Every operation of the store in memory in terms of `blob?` and `members`. A blob that is there stays
as it was first stored, and members are never taken out of a set; both hold whatever interferes.
-/

namespace ArtifactRegistry.MemoryStore

open ArtifactRegistry.Action

variable {world after : World MemoryStore} {store : MemoryStore}

/-- The members of the set at a path; a set that was never written has none. -/
def members (store : MemoryStore) (path : String) : List Digest :=
  (store.links.get? path).getD []

@[simp] theorem links_put (mediaType : String) (payload : Bytes) :
    (store.put mediaType payload).links = store.links := by
  simp only [put]
  split <;> rfl

@[simp] theorem blobs_addLink (path : String) (digest : Digest) :
    (store.addLink path digest).blobs = store.blobs := by
  simp only [addLink]
  split <;> rfl

@[simp] theorem members_put (mediaType : String) (payload : Bytes) (path : String) :
    (store.put mediaType payload).members path = store.members path := by
  simp only [members, links_put]

@[simp] theorem blob?_addLink (path : String) (digest other : Digest) :
    (store.addLink path digest).blob? other = store.blob? other := by
  simp only [blob?, blobs_addLink]

/-- Only the first put of a payload counts. -/
theorem blob?_put (mediaType : String) (payload : Bytes) (digest : Digest) :
    (store.put mediaType payload).blob? digest =
      if digest = Digest.ofBytes payload then
        some ((store.blob? digest).getD ⟨mediaType, payload⟩)
      else store.blob? digest := by
  cases there : store.blob? (Digest.ofBytes payload) with
  | some blob =>
    simp only [put, there]
    split
    · next same =>
      rw [same, there]
      rfl
    · rfl
  | none =>
    simp only [put, there]
    simp only [blob?, SortedMap.get?_insert, Digest.text_inj] at there ⊢
    split
    · next same =>
      rw [same, there]
      rfl
    · rfl

theorem blob?_put_of_some {mediaType : String} {payload : Bytes} {digest : Digest}
    {blob : StoredBlob} (there : store.blob? digest = some blob) :
    (store.put mediaType payload).blob? digest = some blob := by
  rw [blob?_put, there]
  split <;> rfl

/-- A blob that is new is kept as it was put. -/
theorem blob?_put_of_none {payload : Bytes} (new : store.blob? (Digest.ofBytes payload) = none)
    (mediaType : String) :
    (store.put mediaType payload).blob? (Digest.ofBytes payload) = some ⟨mediaType, payload⟩ := by
  rw [blob?_put, if_pos rfl, new]
  rfl

/-- The set that is linked to gets the member if it lacks it; no other set changes. -/
theorem members_addLink (path other : String) (digest : Digest) :
    (store.addLink path digest).members other =
      if other = path ∧ digest ∉ store.members path then store.members path ++ [digest]
      else store.members other := by
  simp only [addLink, members]
  by_cases there : digest ∈ (store.links.get? path).getD []
  · simp [there]
  · by_cases same : other = path <;> simp [there, same, SortedMap.get?_insert]

theorem mem_members_addLink_self (path : String) (digest : Digest) :
    digest ∈ (store.addLink path digest).members path := by
  rw [members_addLink]
  split
  · exact List.mem_append_right _ (List.mem_singleton_self digest)
  · next there => simpa using there

theorem mem_members_addLink_of_mem {path other : String} {digest member : Digest}
    (there : member ∈ store.members other) :
    member ∈ (store.addLink path digest).members other := by
  rw [members_addLink]
  split
  · next new => exact List.mem_append_left _ (new.1 ▸ there)
  · exact there

/-- A link adds one member to one set. -/
theorem mem_members_addLink {path other : String} {digest member : Digest} :
    member ∈ (store.addLink path digest).members other ↔
      member ∈ store.members other ∨ other = path ∧ member = digest := by
  rw [members_addLink]
  split
  · next new => simp [new.1]
  · next old =>
    constructor
    · exact .inl
    · rintro (there | ⟨rfl, rfl⟩)
      · exact there
      · simpa using old

/-- A set never gets a member twice. -/
theorem nodup_addLink {other : String} (nodup : (store.members other).Nodup) (path : String)
    (digest : Digest) : ((store.addLink path digest).members other).Nodup := by
  rw [members_addLink]
  split
  · next new =>
    obtain ⟨rfl, lacks⟩ := new
    exact (List.perm_append_singleton _ _).nodup_iff.mpr (List.nodup_cons.mpr ⟨lacks, nodup⟩)
  · exact nodup

/-! ## Running the operations -/

theorem runIn_stat (digest : Digest) (world : World MemoryStore) :
    (stat digest).runIn world =
      ((world.store.blob? digest).elim (.error (.blobUnknown digest))
        fun blob => .ok (StoredBlob.describe blob digest), world) := by
  simp only [stat, runIn_bind, runIn_get]
  cases world.store.blob? digest <;> rfl

private theorem stat_readOnly (digest : Digest) : ReadOnly (stat digest) := by
  intro world
  rw [runIn_stat]
  exact ⟨rfl, rfl⟩

private theorem orFail_readOnly {α : Type} (value : Option α) (error : StorageError) :
    ReadOnly (orFail value error) := by
  cases value
  · exact .throw error
  · exact .pure _

private theorem get_readOnly : ReadOnly (get : Action MemoryStore StorageError (World MemoryStore)) :=
  fun _ => ⟨rfl, rfl⟩

instance : ReadingBackend MemoryStore where
  statBlob token digest := (ReadOnly.ensureLive token).bind fun _ => stat_readOnly digest
  getBlob token digest := by
    apply (ReadOnly.ensureLive token).bind
    intro live
    apply get_readOnly.bind
    intro world
    apply (orFail_readOnly _ _).bind
    intro blob
    exact .pure _
  listLinks token path := by
    apply (ReadOnly.ensureLive token).bind
    intro live
    apply get_readOnly.bind
    intro world
    exact orFail_readOnly _ _

/-- A put of a blob fails and does nothing, or keeps the payload and returns its digest. -/
theorem putBlob_ran {token : Token} {mediaType : String} {payload : Bytes}
    {result : Except StorageError Descriptor}
    (ran : (Store.putBlob token mediaType payload).runIn world = (result, after)) :
    (∃ error, result = .error error ∧ after.store = world.store) ∨
      ∃ descriptor, result = .ok descriptor ∧ descriptor.digest = Digest.ofBytes payload ∧
        after.store = world.store.put mediaType payload := by
  rw [Store.putBlob, runIn_call] at ran
  split at ran
  · cases ran
    exact .inl ⟨_, rfl, rfl⟩
  obtain ⟨fired, looks, looked⟩ := runIn_isCancelled (ε := StorageError) token world
  simp only [Backend.putBlob, ensureLive, runIn_bind, looked] at ran
  cases fired with
  | true =>
    cases ran
    exact .inl ⟨_, rfl, rfl⟩
  | false =>
    simp only [Bool.false_eq_true, if_false, runIn_pure, runIn_modify, runIn_stat, blob?_put,
      if_true, Option.elim_some] at ran
    cases ran
    exact .inr ⟨_, rfl, rfl, rfl⟩

/-- A link fails and does nothing, or is made. -/
theorem addLink_ran {token : Token} {path : String} {digest : Digest}
    {result : Except StorageError Unit}
    (ran : (Store.addLink token path digest).runIn world = (result, after)) :
    (∃ error, result = .error error ∧ after.store = world.store) ∨
      result = .ok () ∧ after.store = world.store.addLink path digest := by
  rw [Store.addLink, runIn_call] at ran
  split at ran
  · cases ran
    exact .inl ⟨_, rfl, rfl⟩
  obtain ⟨fired, looks, looked⟩ := runIn_isCancelled (ε := StorageError) token world
  simp only [Backend.addLink, ensureLive, runIn_bind, looked] at ran
  cases fired with
  | true =>
    cases ran
    exact .inl ⟨_, rfl, rfl⟩
  | false =>
    cases ran
    exact .inr ⟨rfl, rfl⟩

/-- With nothing in the way, a put of a blob succeeds. -/
theorem putBlob_of_calm (calm : world.interference = .none) (token : Token) (mediaType : String)
    (payload : Bytes) :
    ∃ descriptor after, (Store.putBlob token mediaType payload).runIn world =
        (.ok descriptor, after) ∧
      descriptor.digest = Digest.ofBytes payload ∧ after.interference = .none := by
  obtain ⟨looks, looked⟩ := runIn_ensureLive_of_calm calm token
  refine ⟨StoredBlob.describe ((world.store.blob? (Digest.ofBytes payload)).getD ⟨mediaType, payload⟩)
    (Digest.ofBytes payload), { world with
      store := world.store.put mediaType payload, looks, calls := world.calls + 1 }, ?_, rfl, calm⟩
  rw [Store.putBlob, runIn_call_of_calm calm]
  simp only [Backend.putBlob, runIn_bind, looked, runIn_modify, runIn_stat, blob?_put, if_true,
    Option.elim_some]

/-- With nothing in the way, a link is made. -/
theorem addLink_of_calm (calm : world.interference = .none) (token : Token) (path : String)
    (digest : Digest) :
    ∃ after, (Store.addLink token path digest).runIn world = (.ok (), after) := by
  obtain ⟨looks, looked⟩ := runIn_ensureLive_of_calm calm token
  rw [Store.addLink, runIn_call_of_calm calm]
  simp only [Backend.addLink, runIn_bind, looked, runIn_modify]
  exact ⟨_, rfl⟩

theorem addLink_keepsInterference (token : Token) (path : String) (digest : Digest) :
    KeepsInterference (Store.addLink token path digest : Action MemoryStore _ _) :=
  ((ReadOnly.ensureLive token).keepsInterference.bind fun _ _ => rfl).call

/-- With nothing in the way, a listing answers with the set at the path. -/
theorem runIn_listLinks_of_calm (calm : world.interference = .none) (token : Token)
    (path : String) :
    ∃ counted, (Store.listLinks token path).runIn world =
      ((world.store.links.get? path).elim (.error (.pathNotFound path)) .ok, counted) := by
  obtain ⟨looks, looked⟩ := runIn_ensureLive_of_calm calm token
  rw [Store.listLinks, runIn_call_of_calm calm]
  simp only [Backend.listLinks, runIn_bind, looked, runIn_get]
  cases world.store.links.get? path <;> exact ⟨_, rfl⟩

/-- With nothing in the way, a blob is reported as what it is. -/
theorem statBlob_answers (store : MemoryStore) (token : Token) (digest : Digest) :
    Answers store (Store.statBlob token digest)
      ((store.blob? digest).elim (.error (.blobUnknown digest))
        fun blob => .ok (StoredBlob.describe blob digest)) := by
  refine ((Answers.ensureLive token).bind_ok ?_).call
  rintro world rfl calm
  exact ⟨world, runIn_stat digest world, rfl, calm⟩

theorem getBlob_answers (store : MemoryStore) (token : Token) (digest : Digest) :
    Answers store (Store.getBlob token digest)
      ((store.blob? digest).elim (.error (.blobUnknown digest)) fun blob => .ok blob.bytes) := by
  refine ((Answers.ensureLive token).bind_ok ?_).call
  rintro world rfl calm
  refine ⟨world, ?_, rfl, calm⟩
  simp only [runIn_bind, runIn_get]
  cases world.store.blob? digest <;> rfl

end ArtifactRegistry.MemoryStore
