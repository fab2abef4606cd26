import ArtifactRegistry.Proofs.Storage.Blobs
import Mathlib.Data.Set.Insert

/-! # What a store of links keeps

The links of a store form a set of digests at every path. `LinkBackend` says what every operation does
to these sets as long as all links are made in one repository, and which of them a listing shows, so
results about referrers are proved once for all backends. `RefusingBackend` says that an operation that
fails has done nothing, unless it was the medium that failed.
-/

namespace ArtifactRegistry

open ArtifactRegistry.Action

/-! ## Refused calls -/

/-- An error that is a failure of the medium. -/
def StorageError.OfMedium (error : StorageError) : Prop := ∃ source, error = .medium source

instance : DecidablePred StorageError.OfMedium
  | .medium source => .isTrue ⟨source, rfl⟩
  | .blobUnknown _ | .manifestUnknown _ | .pathNotFound _ | .invalidRepository _ | .invalidDigest _
  | .corrupted _ | .unreadable _ _ | .cancelled => .isFalse nofun

/-- Calls fail before they do something, or because of the medium. -/
class RefusingBackend (σ : Type) [Backend σ] : Prop where
  /-- A payload is stored under its own digest. -/
  putBlob_digest {token : Token} {mediaType : String} {payload : Bytes} {world after : World σ}
    {descriptor : Descriptor}
    (ran : (Store.putBlob token mediaType payload).runIn world = (.ok descriptor, after)) :
    descriptor.digest = Digest.ofBytes payload
  putBlob_refused {token : Token} {mediaType : String} {payload : Bytes} {world after : World σ}
    {error : StorageError}
    (ran : (Store.putBlob token mediaType payload).runIn world = (.error error, after)) :
    error.OfMedium ∨ after.store = world.store
  /-- Only the medium can stop a link that is made with a token that nobody holds. -/
  addLink_refused {path : String} {digest : Digest} {world after : World σ} {error : StorageError}
    (valid : digest.IsValid)
    (ran : (Store.addLink .fresh path digest).runIn world = (.error error, after)) :
    error.OfMedium

/-! ## Sets of links -/

/-- The members of the set at every path. -/
abbrev Links := String → Set Digest

/-- A backend that keeps sets of links. -/
class LinkBackend (σ : Type) [Backend σ] extends BlobBackend σ, RefusingBackend σ where
  /-- Whether two paths are paths of the same set. -/
  SamePath : String → String → Prop
  /-- All links are those of one repository. -/
  Tidy : String → σ → Prop
  links : σ → Links
  /-- A set can be reached by the path that it was made with. -/
  samePath_refl (path : String) : SamePath path path
  /-- Blobs are kept apart from links. -/
  putBlob_links {token : Token} {mediaType repository : String} {payload : Bytes}
    {world after : World σ} {result : Except StorageError Descriptor} (tidy : Tidy repository world.store)
    (ran : (Store.putBlob token mediaType payload).runIn world = (result, after)) :
    Tidy repository after.store ∧ links after.store = links world.store
  /-- A link fails and changes no set, or is made. -/
  addLink_links {token : Token} {repository path : String} {subject digest : Digest}
    {world after : World σ} {result : Except StorageError Unit} (tidy : Tidy repository world.store)
    (derived : referrersLinkPath repository subject = .ok path) (valid : digest.IsValid)
    (ran : (Store.addLink token path digest).runIn world = (result, after)) :
    Tidy repository after.store ∧
      ((∃ error, result = .error error) ∧ links after.store = links world.store ∨
        result = .ok () ∧ ∀ other member, member ∈ links after.store other ↔
          member ∈ links world.store other ∨ SamePath other path ∧ member = digest)
  /-- With nothing in the way, a listing shows no other digests than members. -/
  mem_links {repository path : String} {store : σ} {token : Token} {members : List Digest}
    (tidy : Tidy repository store)
    (listed : Answers store (Store.listLinks token path) (.ok members)) {digest : Digest}
    (member : digest ∈ members) : digest ∈ links store path
  /-- With nothing in the way, every member is listed. -/
  lists {repository path : String} {subject digest : Digest} {store : σ}
    (tidy : Tidy repository store) (derived : referrersLinkPath repository subject = .ok path)
    (there : digest ∈ links store path) (token : Token) :
    ∃ members, Answers store (Store.listLinks token path) (.ok members) ∧ digest ∈ members

/-- With nothing in the way, a digest is listed in the set at a path. -/
def HasLink {σ : Type} [Backend σ] (store : σ) (path : String) (digest : Digest) : Prop :=
  ∀ token, ∃ members, Answers store (Store.listLinks token path) (.ok members) ∧ digest ∈ members

/-- What a listing shows, when a set that is not there is taken for one without members. -/
def orEmpty : Except StorageError (List Digest) → Except StorageError (List Digest)
  | .error (.pathNotFound _) => .ok []
  | listed => listed

section Listing

variable {σ : Type} [Backend σ] [LinkBackend σ] {repository path : String} {store : σ}
  {digest : Digest}

theorem HasLink.mem_links (has : HasLink store path digest)
    (tidy : LinkBackend.Tidy repository store) : digest ∈ LinkBackend.links store path := by
  obtain ⟨members, listed, member⟩ := has .fresh
  exact LinkBackend.mem_links tidy listed member

theorem hasLink_iff (tidy : LinkBackend.Tidy repository store) {subject : Digest}
    (derived : referrersLinkPath repository subject = .ok path) :
    HasLink store path digest ↔ digest ∈ LinkBackend.links store path := by
  constructor
  · exact fun has => has.mem_links tidy
  · exact fun there token => LinkBackend.lists tidy derived there token

end Listing

/-! ## The store in memory -/

namespace MemoryStore

/-- What a listing of the set at a path answers. -/
theorem listLinks_answers (store : MemoryStore) (token : Token) (path : String) :
    Answers store (Store.listLinks token path)
      ((store.links.get? path).elim (.error (.pathNotFound path)) .ok) := by
  apply (Store.listLinks_readOnly token path).answers
  rintro world rfl calm
  obtain ⟨after, ran⟩ := runIn_listLinks_of_calm calm token path
  rw [ran]

instance : RefusingBackend MemoryStore where
  putBlob_digest ran := by
    obtain ⟨_, failed, -⟩ | ⟨_, stored, digest_eq, -⟩ := putBlob_ran ran
    · cases failed
    · cases stored
      exact digest_eq
  putBlob_refused ran := by
    obtain ⟨_, -, same⟩ | ⟨_, stored, -⟩ := putBlob_ran ran
    · exact .inr same
    · cases stored
  addLink_refused {path digest world after error} _ ran := by
    rw [Store.addLink, runIn_call] at ran
    split at ran
    · cases ran
      exact ⟨_, rfl⟩
    · cases ran

instance : LinkBackend MemoryStore where
  SamePath path path' := path = path'
  Tidy _ _ := True
  links store path := {digest | digest ∈ store.members path}
  samePath_refl _ := rfl
  putBlob_links _ ran := by
    refine ⟨trivial, ?_⟩
    obtain ⟨_, -, same⟩ | ⟨_, -, -, stored⟩ := putBlob_ran ran
    · rw [same]
    · simp only [stored, members_put]
  addLink_links _ _ _ ran := by
    refine ⟨trivial, ?_⟩
    obtain ⟨error, failed, same⟩ | ⟨done, linked⟩ := addLink_ran ran
    · exact .inl ⟨⟨error, failed⟩, by rw [same]⟩
    · refine .inr ⟨done, fun other member => ?_⟩
      rw [linked]
      exact mem_members_addLink
  mem_links {repository path store token listing} _ listed digest member := by
    have answer := listed.unique (listLinks_answers store token path)
    cases found : store.links.get? path with
    | none =>
      rw [found] at answer
      cases answer
    | some digests =>
      rw [found] at answer
      cases answer
      change digest ∈ store.members path
      rw [members, found]
      exact member
  lists {repository path subject digest store} _ _ there token := by
    have listed := listLinks_answers store token path
    change digest ∈ store.members path at there
    rw [members] at there
    cases found : store.links.get? path with
    | none =>
      rw [found] at there
      cases there
    | some digests =>
      rw [found] at listed there
      exact ⟨digests, listed, there⟩

end MemoryStore

end ArtifactRegistry
