import ArtifactRegistry.Proofs.Manifest.Interchange
import ArtifactRegistry.Proofs.Storage.FileAnswers

/-! # Files that mirror memory

`Mirrors` relates a store in memory and a store in files that hold the same: the same blobs under the
same media types, and the same members in every link set of one repository. The order of members is not
the same, since files are listed by name and memory keeps the order of arrival. What is put on both
leaves them so, unless the medium fails, and both start that way.
-/

namespace ArtifactRegistry

open ArtifactRegistry.Action

/-- A store in memory has the same blobs as itself. -/
theorem MemoryStore.sameBlobs_self (store : MemoryStore) : SameBlobs store store := by
  constructor
  · intro digest valid token
    have answers := store.statBlob_answers token digest
    right
    cases there : store.blob? digest with
    | none =>
      rw [there] at answers
      exact .inl ⟨answers, answers⟩
    | some blob =>
      rw [there] at answers
      exact .inr ⟨_, _, answers, answers, rfl, .same⟩
  · intro digest valid token
    exact .of_answers (store.getBlob_answers token digest) (store.getBlob_answers token digest)
      (.refl _)

/-- Files hold what is in memory. -/
structure Mirrors (payloads : Set Bytes) (repository : String) (memory : MemoryStore)
    (files : FileStore) : Prop where
  sound : files.Sound
  tidy : files.Tidy repository
  blobs_eq : files.blob? = memory.blob?
  /-- What is kept under a digest is one of the payloads. -/
  kept {digest : Digest} {blob : StoredBlob} (there : memory.blob? digest = some blob) :
    blob.bytes ∈ payloads ∧ digest = Digest.ofBytes blob.bytes
  nodup (path : String) : (memory.members path).Nodup
  links_iff {subject digest : Digest} {path : String}
    (derived : referrersLinkPath repository subject = .ok path) :
    digest ∈ files.links path ↔ digest ∈ memory.members path

namespace Mirrors

variable {payloads : Set Bytes} {repository path : String} {memory : MemoryStore} {files : FileStore}

theorem sameBlobs (mirrors : Mirrors payloads repository memory files) : SameBlobs memory files := by
  constructor
  · intro digest valid token
    obtain ⟨_, answers', ⟨error, rfl, ofMedium⟩ | rfl⟩ := mirrors.sound.statBlob_answers valid token
    · exact .inl ⟨error, answers', ofMedium⟩
    have answers := memory.statBlob_answers token digest
    rw [mirrors.blobs_eq] at answers'
    right
    cases there : memory.blob? digest with
    | none =>
      rw [there] at answers answers'
      exact .inl ⟨answers, answers'⟩
    | some blob =>
      rw [there] at answers answers'
      refine .inr ⟨_, _, answers, answers', rfl, ?_⟩
      by_cases untyped : blob.mediaType = ""
      · rw [FileStore.describe, if_pos untyped]
        exact .untyped untyped
      · rw [FileStore.describe, if_neg untyped]
        exact .same
  · intro digest valid token
    obtain ⟨_, answers', ⟨error, rfl, ofMedium⟩ | rfl⟩ := mirrors.sound.getBlob_answers valid token
    · exact .of_lost answers' ofMedium
    have answers := memory.getBlob_answers token digest
    rw [mirrors.blobs_eq] at answers'
    refine .of_answers answers answers' ?_
    cases memory.blob? digest with
    | none => exact .error _
    | some blob => exact .ok rfl

/-- No other payload is kept under the digest of a payload. -/
theorem genuine (mirrors : Mirrors payloads repository memory files)
    (injective : Set.InjOn Digest.ofBytes payloads) {payload : Bytes} (member : payload ∈ payloads) :
    Blobs.Genuine memory.blob? payload := by
  intro blob there
  obtain ⟨known, same⟩ := mirrors.kept there
  exact injective known member same.symm

/-- Files that hold as much more as memory does mirror it again. -/
theorem putBlob (mirrors : Mirrors payloads repository memory files) {payload : Bytes}
    (member : payload ∈ payloads) {mediaType : String} {files' : FileStore}
    (sound : files'.Sound) (tidy : files'.Tidy repository)
    (blobs_eq : files'.blob? = Blobs.put files.blob? mediaType payload)
    (links_eq : files'.links = files.links) :
    Mirrors payloads repository (memory.put mediaType payload) files' := by
  have put_eq : (memory.put mediaType payload).blob? = Blobs.put memory.blob? mediaType payload :=
    funext fun digest => MemoryStore.blob?_put mediaType payload digest
  constructor
  · exact sound
  · exact tidy
  · rw [blobs_eq, put_eq, mirrors.blobs_eq]
  · intro digest blob there
    rw [put_eq] at there
    obtain before | ⟨digest_eq, rfl⟩ := Blobs.put_eq_some there
    · exact mirrors.kept before
    · exact ⟨member, digest_eq⟩
  · intro path
    rw [MemoryStore.members_put]
    exact mirrors.nodup path
  · intro subject digest path derived
    rw [links_eq, MemoryStore.members_put]
    exact mirrors.links_iff derived

/-- Files with one more member in the same set mirror memory again. -/
theorem addLink (mirrors : Mirrors payloads repository memory files) {subject digest : Digest}
    {path : String} (derived : referrersLinkPath repository subject = .ok path) {files' : FileStore}
    (sound : files'.Sound) (tidy : files'.Tidy repository) (blobs_eq : files'.blob? = files.blob?)
    (adds : FileStore.AddsLink files.links path digest files'.links) :
    Mirrors payloads repository (memory.addLink path digest) files' := by
  constructor
  · exact sound
  · exact tidy
  · funext other
    rw [blobs_eq, MemoryStore.blob?_addLink, mirrors.blobs_eq]
  · intro other blob there
    rw [MemoryStore.blob?_addLink] at there
    exact mirrors.kept there
  · exact fun other => MemoryStore.nodup_addLink (mirrors.nodup other) path digest
  · intro about member other derived'
    -- In one repository, sets are told apart by their paths, in memory as in files.
    have same_iff : FileTree.Path.ofText other = FileTree.Path.ofText path ↔ other = path := by
      constructor
      · intro same
        obtain rfl := eq_of_ofText_eq derived' derived same
        exact Except.ok.inj (derived'.symm.trans derived)
      · exact congrArg FileTree.Path.ofText
    rw [adds, mirrors.links_iff derived', same_iff, MemoryStore.mem_members_addLink]

/-- Puts in a repository keep files like memory, when no two payloads share a digest. -/
theorem interchangeable (injective : Set.InjOn Digest.ofBytes payloads) (repository : String) :
    Interchangeable payloads repository (Mirrors payloads repository) := by
  constructor
  · exact sameBlobs
  · intro payload member token mediaType world world' mirrors calm calm'
    obtain ⟨stored, after, ran, digest_eq, stillCalm⟩ :=
      MemoryStore.putBlob_of_calm calm token mediaType payload
    rcases ran' : (Store.putBlob token mediaType payload).runIn world' with ⟨error | shown, after'⟩
    · exact ⟨_, _, rfl, .inl ⟨error, rfl, FileStore.putBlob_of_calm calm' ran'⟩⟩
    refine ⟨_, _, rfl, .inr ⟨_, after, ran, .ok ⟨digest_eq, ?_⟩, ?_, stillCalm, ?_⟩⟩
    · rw [digest_eq]
      exact RefusingBackend.putBlob_digest ran'
    · have genuine : Blobs.Genuine world'.store.blob? payload := by
        rw [mirrors.blobs_eq]
        exact mirrors.genuine injective member
      obtain ⟨_, ⟨⟩, -⟩ | ⟨_, -, -, store_eq⟩ := MemoryStore.putBlob_ran ran
      obtain ⟨sound, -, blobs_eq⟩ := BlobBackend.putBlob_ok mirrors.sound genuine ran'
      obtain ⟨tidy, links_eq⟩ := LinkBackend.putBlob_links mirrors.tidy ran'
      rw [store_eq]
      exact mirrors.putBlob member sound tidy blobs_eq links_eq
    · exact ((FileStore.putBlob_keepsInterference token mediaType payload).interference_eq ran').trans
        calm'
  · intro subject digest path derived valid world world' mirrors calm calm'
    obtain ⟨after, ran⟩ := MemoryStore.addLink_of_calm calm .fresh path digest
    rcases ran' : (Store.addLink .fresh path digest).runIn world' with ⟨error | ⟨⟩, after'⟩
    · exact ⟨_, _, rfl, .inl ⟨error, rfl, RefusingBackend.addLink_refused valid ran'⟩⟩
    refine ⟨_, _, rfl, .inr ⟨_, after, ran, .ok rfl, ?_, ?_, ?_⟩⟩
    · obtain ⟨_, ⟨⟩, -⟩ | ⟨-, store_eq⟩ := MemoryStore.addLink_ran ran
      obtain ⟨sound, blobs_eq⟩ := BlobBackend.addLink_ran mirrors.sound derived ran'
      obtain ⟨tidy, ⟨⟨_, ⟨⟩⟩, -⟩ | ⟨-, adds⟩⟩ :=
        LinkBackend.addLink_links mirrors.tidy derived valid ran'
      rw [store_eq]
      exact mirrors.addLink derived sound tidy blobs_eq adds
    · exact ((MemoryStore.addLink_keepsInterference .fresh path digest).interference_eq ran).trans calm
    · exact ((FileStore.addLink_keepsInterference .fresh path digest).interference_eq ran').trans calm'

/-- Stores that hold nothing mirror each other. -/
theorem empty (payloads : Set Bytes) (repository root : String) :
    Mirrors payloads repository {} ⟨root, .empty⟩ := by
  obtain ⟨sound, blobs_eq⟩ := FileStore.sound_empty root
  obtain ⟨tidy, links_eq⟩ := FileStore.tidy_empty repository root
  refine ⟨sound, tidy, ?_, ?_, fun _ => .nil, ?_⟩
  · rw [blobs_eq]
    rfl
  · intro digest blob there
    cases there
  · intro subject digest path _
    rw [links_eq]
    exact ⟨nofun, nofun⟩

end Mirrors

end ArtifactRegistry
