import ArtifactRegistry.Storage.Backend

/-! # A store in memory

Blobs are kept in a map from digests, link sets in a map from paths, each set in the order in which
its members were first added.
-/

namespace ArtifactRegistry

structure StoredBlob where
  mediaType : String
  bytes : Bytes
deriving DecidableEq

structure MemoryStore where
  blobs : SortedMap StoredBlob := ∅
  links : SortedMap (List Digest) := ∅
deriving DecidableEq, Inhabited

namespace MemoryStore

def blob? (store : MemoryStore) (digest : Digest) : Option StoredBlob :=
  store.blobs.get? digest.text

def StoredBlob.describe (blob : StoredBlob) (digest : Digest) : Descriptor :=
  { mediaType := blob.mediaType, digest, size := Int64.ofNat blob.bytes.length }

/-- Keeps a payload unless it is there already. -/
def put (store : MemoryStore) (mediaType : String) (payload : Bytes) : MemoryStore :=
  let digest := Digest.ofBytes payload
  match store.blob? digest with
  | some _ => store
  | none => { store with blobs := store.blobs.insert digest.text ⟨mediaType, payload⟩ }

/-- Adds a member to a set unless it is there already. -/
def addLink (store : MemoryStore) (path : String) (digest : Digest) : MemoryStore :=
  let members := (store.links.get? path).getD []
  if digest ∈ members then store
  else { store with links := store.links.insert path (members ++ [digest]) }

/-- Turns the absence of a value into an error. -/
def orFail {α : Type} (value : Option α) (error : StorageError) :
    Action MemoryStore StorageError α :=
  match value with
  | some value => pure value
  | none => throw error

def stat (digest : Digest) : Action MemoryStore StorageError Descriptor := do
  let blob ← orFail ((← get).store.blob? digest) (.blobUnknown digest)
  return StoredBlob.describe blob digest

instance : Backend MemoryStore where
  blobStoreName := "memory"
  linkStoreName := "memory"
  putBlob token mediaType payload := do
    Action.ensureLive token
    modify fun world => { world with store := world.store.put mediaType payload }
    stat (Digest.ofBytes payload)
  statBlob token digest := do
    Action.ensureLive token
    stat digest
  getBlob token digest := do
    Action.ensureLive token
    let blob ← orFail ((← get).store.blob? digest) (.blobUnknown digest)
    return blob.bytes
  addLink token path digest := do
    Action.ensureLive token
    modify fun world => { world with store := world.store.addLink path digest }
  listLinks token path := do
    Action.ensureLive token
    orFail ((← get).store.links.get? path) (.pathNotFound path)
  linkBound store := (store.links.entries.flatMap Prod.snd).length

end MemoryStore

end ArtifactRegistry
