import ArtifactRegistry.Descriptor
import ArtifactRegistry.Storage.Action

/-! # What a store offers

A backend keeps blobs under their digests and sets of digests under paths. Blobs are never deleted
or changed; a blob's media type is that of its first put. Every operation is given a token and fails
when it finds the token fired.
-/

namespace ArtifactRegistry

class Backend (σ : Type) where
  blobStoreName : String
  linkStoreName : String
  /-- Keeps a payload under its digest. -/
  putBlob : Token → (mediaType : String) → Bytes → Action σ StorageError Descriptor
  /-- The descriptor of a stored payload. -/
  statBlob : Token → Digest → Action σ StorageError Descriptor
  /-- A stored payload. -/
  getBlob : Token → Digest → Action σ StorageError Bytes
  /-- Adds a digest to the set at a path. -/
  addLink : Token → (path : String) → Digest → Action σ StorageError Unit
  /-- The members of the set at a path. -/
  listLinks : Token → (path : String) → Action σ StorageError (List Digest)
  /-- No more digests than this are members of sets. -/
  linkBound : σ → Nat

/-! ## Store calls as an operation makes them: counted, and subject to faults -/

namespace Store

variable {σ : Type} [Backend σ]

def putBlob (token : Token) (mediaType : String) (payload : Bytes) :
    Action σ StorageError Descriptor :=
  .call (Backend.putBlob token mediaType payload)

def statBlob (token : Token) (digest : Digest) : Action σ StorageError Descriptor :=
  .call (Backend.statBlob token digest)

def getBlob (token : Token) (digest : Digest) : Action σ StorageError Bytes :=
  .call (Backend.getBlob token digest)

def addLink (token : Token) (path : String) (digest : Digest) : Action σ StorageError Unit :=
  .call (Backend.addLink token path digest)

def listLinks (token : Token) (path : String) : Action σ StorageError (List Digest) :=
  .call (Backend.listLinks token path)

end Store

end ArtifactRegistry
