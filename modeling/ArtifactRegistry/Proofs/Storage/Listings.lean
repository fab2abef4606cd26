import ArtifactRegistry.Proofs.Storage.FileLinks

/-! # Listings of any store

Whatever a store holds, a listing answers with what the store holds, and all listings together show no
more digests than the store counts. `ListingBackend` says so without asking how the store came about: a
file tree may hold anything at all where its links should be.
-/

namespace ArtifactRegistry

open ArtifactRegistry.Action

/-- A backend whose listings depend on what it holds, and on nothing else. -/
class ListingBackend (σ : Type) [Backend σ] : Prop where
  /-- With nothing in the way, a listing has one answer, whatever its token. -/
  listLinks_answers (store : σ) (path : String) :
    ∃ result, ∀ token, Answers store (Store.listLinks token path) result
  /-- The bound on links counts every digest that a listing shows. -/
  counts_links (store : σ) :
    ∃ linked : List Digest, linked.length ≤ Backend.linkBound store ∧
      ∀ path digest, HasLink store path digest → digest ∈ linked

/-- What a listing shows is linked. -/
theorem hasLink_of_answers {σ : Type} [Backend σ] [ListingBackend σ] {store : σ} {token : Token}
    {path : String} {members : List Digest}
    (answers : Answers store (Store.listLinks token path) (.ok members)) {digest : Digest} :
    HasLink store path digest ↔ digest ∈ members := by
  constructor
  · intro has
    obtain ⟨members', answers', member⟩ := has token
    cases answers.unique answers'
    exact member
  · intro member token'
    obtain ⟨result, listed⟩ := ListingBackend.listLinks_answers store path
    cases answers.unique (listed token)
    exact ⟨members, listed token', member⟩

/-! ## In memory -/

namespace MemoryStore

instance : ListingBackend MemoryStore where
  listLinks_answers store path := ⟨_, fun token => listLinks_answers store token path⟩
  counts_links store := by
    refine ⟨store.links.entries.flatMap Prod.snd, Nat.le_refl _, ?_⟩
    intro path digest has
    obtain ⟨members, answers, member⟩ := has .fresh
    have listed := answers.unique (listLinks_answers store .fresh path)
    cases found : store.links.get? path with
    | none =>
      rw [found] at listed
      cases listed
    | some digests =>
      rw [found] at listed
      cases listed
      exact List.mem_flatMap.mpr ⟨(path, members), SortedMap.mem_entries_of_get? found, member⟩

end MemoryStore

/-! ## In files -/

namespace FileTree

variable {tree below : FileTree} {name : String} {entries : List (String × FileTree)}

/-- The files of an entry are files of the directory. -/
theorem exists_filesBelow_subset (inside : (name, below) ∈ entries) (start : String) :
    ∃ start', filesBelow start' below ⊆ filesOf start entries := by
  induction entries with
  | nil => cases inside
  | cons entry rest ih =>
    obtain ⟨first, other⟩ := entry
    rw [filesOf]
    rcases List.mem_cons.mp inside with same | later
    · cases same
      exact ⟨_, List.subset_append_left _ _⟩
    · obtain ⟨start', included⟩ := ih later
      exact ⟨start', List.subset_append_of_subset_right _ included⟩

/-- What is at a path is among the files of the tree. -/
theorem mem_filesBelow_of_find {path : Path} {contents : Bytes}
    (there : find path tree = .ok (.file contents)) (start : String) :
    contents ∈ (filesBelow start tree).map Prod.snd := by
  induction path generalizing tree start with
  | nil =>
    cases there
    rw [filesBelow]
    exact List.mem_singleton_self contents
  | cons name path ih =>
    obtain ⟨entries, below, rfl, -, entry, there⟩ := find_cons_eq_ok_iff.mp there
    obtain ⟨start', included⟩ :=
      exists_filesBelow_subset (SortedMap.mem_of_lookup_eq_some entry) start
    rw [filesBelow]
    exact List.map_subset Prod.snd included (ih there start')

theorem mem_files_of_read {path : Path} {contents : Bytes} (ran : read path tree = .ok contents) :
    contents ∈ tree.files.map Prod.snd := by
  have there := find_of_found (read_eq_ok_iff.mp ran).2
  have inside := mem_filesBelow_of_find there ""
  rw [files]
  exact ((List.mergeSort_perm _ _).map Prod.snd).mem_iff.mpr inside

end FileTree

namespace FileStore

variable {store : FileStore} {path name : String} {names : FileTree.Path} {members : List Digest}
  {digest : Digest}

/-- The digest that the contents of a link file stand for. -/
def digestIn? (contents : Bytes) : Option Digest :=
  (Bytes.toText? contents).bind fun text => (Digest.parse (Text.trim text)).toOption

/-- The digests that any files of the tree stand for. -/
def allDigests (store : FileStore) : List Digest :=
  store.tree.files.filterMap fun file => digestIn? file.2

/-- A link file has no other member than what it stands for. -/
theorem digestIn?_of_member {contents : Bytes}
    (held : memberOf (textOf (.ok contents)) = .ok members) (member : digest ∈ members) :
    digestIn? contents = some digest := by
  cases decoded : Bytes.toText? contents with
  | none =>
    simp only [textOf, bind, Except.bind, decoded] at held
    cases held
  | some text =>
    simp only [textOf, bind, Except.bind, decoded] at held
    cases held
    simpa [digestIn?, decoded] using member

/-- A member of a directory is what one of the files stands for. -/
theorem mem_allDigests_of_linkIn (held : store.linkIn names = .ok members)
    (member : digest ∈ members) : digest ∈ store.allDigests := by
  rw [linkIn] at held
  cases ran : store.read (names ++ [linkFile]) with
  | error error =>
    rw [ran] at held
    cases error
    case notFound =>
      cases held
      cases member
    all_goals cases held
  | ok contents =>
    obtain ⟨file, there, rfl⟩ := List.mem_map.mp (FileTree.mem_files_of_read ran)
    rw [ran] at held
    exact List.mem_filterMap.mpr ⟨file, there, digestIn?_of_member held member⟩

theorem mem_allDigests_of_linksUnder (listed : store.linksUnder path name = .ok members)
    (member : digest ∈ members) : digest ∈ store.allDigests := by
  rw [linksUnder] at listed
  split at listed
  · cases listed
    cases member
  · obtain ⟨links, -, listed⟩ := bind_eq_ok_iff.mp listed
    obtain ⟨lists, ran, ended⟩ := bind_eq_ok_iff.mp listed
    cases ended
    obtain ⟨link, -, list, held, member⟩ := (mem_flatten_of_mapM ran).mp member
    exact mem_allDigests_of_linkIn held member

theorem mem_allDigests_of_linksAt (listed : store.linksAt path = .ok members)
    (member : digest ∈ members) : digest ∈ store.allDigests := by
  rw [linksAt] at listed
  split at listed
  · cases listed
  · cases listed
  · obtain ⟨lists, ran, rfl⟩ := map_eq_ok_iff.mp listed
    obtain ⟨name, -, list, held, member⟩ := (mem_flatten_of_mapM ran).mp member
    exact mem_allDigests_of_linksUnder held member

instance : ListingBackend FileStore where
  listLinks_answers store path := ⟨_, fun token => (listLinks_answers store token path).call⟩
  counts_links store := by
    refine ⟨store.allDigests, List.length_filterMap_le _ _, ?_⟩
    intro path digest has
    obtain ⟨members, answers, member⟩ := has .fresh
    have listed := (listLinks_answers store .fresh path).call.unique answers
    exact mem_allDigests_of_linksAt listed member

end FileStore

end ArtifactRegistry
