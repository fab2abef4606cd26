import ArtifactRegistry.Proofs.Storage.FileAnswers
import ArtifactRegistry.Proofs.Storage.FileRepositories
import Mathlib.Data.List.Induction

/-! # Link sets are sets

Digests are linked to one path, in any order and with repetitions, in a store that starts empty:
`Linked`. In memory, a listing shows each of them once, in the order in which they were first linked,
`MemoryStore.get?_of_linked`. In files, it shows each of them once in ascending order,
`FileStore.listing_of_linked`, so it depends on nothing but which digests were linked. A path that
nothing was linked to cannot be listed, `FileStore.linksAt_empty`.
-/

namespace ArtifactRegistry

open ArtifactRegistry.Action

/-! ## Digests linked one after the other -/

/-- Calls that link valid digests to a path, each with a token and an interference of its own, lead from
one store to another; the list has the digests of those that succeeded. -/
inductive Linked {σ : Type} [Backend σ] (path : String) (start : σ) : List Digest → σ → Prop
  | none : Linked path start [] start
  | linked {digests : List Digest} {digest : Digest} {token : Token} {world after : World σ}
    (before : Linked path start digests world.store) (valid : digest.IsValid)
    (ran : (Store.addLink token path digest).runIn world = (.ok (), after)) :
    Linked path start (digests ++ [digest]) after.store
  | refused {digests : List Digest} {digest : Digest} {token : Token} {world after : World σ}
    {error : StorageError} (before : Linked path start digests world.store) (valid : digest.IsValid)
    (ran : (Store.addLink token path digest).runIn world = (.error error, after)) :
    Linked path start digests after.store

section Linked

variable {σ : Type} [Backend σ] {repository path : String} {subject : Digest} {start store : σ}
  {digests : List Digest}

/-- Digests can be linked as long as each next one can. -/
theorem exists_linked (Holds : σ → Prop) (begun : Holds start)
    (succeeds : ∀ store, Holds store → ∀ digest : Digest, digest.IsValid → ∃ after : World σ,
      (Store.addLink .callers path digest).runIn { store } = (.ok (), after) ∧ Holds after.store)
    (valid : ∀ digest ∈ digests, digest.IsValid) :
    ∃ store, Linked path start digests store ∧ Holds store := by
  induction digests using List.reverseRecOn with
  | nil => exact ⟨start, .none, begun⟩
  | append_singleton digests digest ih =>
    obtain ⟨earlier, last⟩ := List.forall_mem_append.mp valid
    obtain ⟨store, before, holds⟩ := ih earlier
    have valid := List.forall_mem_singleton.mp last
    obtain ⟨after, ran, holds⟩ := succeeds store holds digest valid
    exact ⟨after.store, .linked before valid ran, holds⟩

/-- The set has the members that it had, and those that were linked. -/
theorem Linked.links_iff [LinkBackend σ] (linked : Linked path start digests store)
    (tidy : LinkBackend.Tidy repository start)
    (derived : referrersLinkPath repository subject = .ok path) :
    LinkBackend.Tidy repository store ∧ ∀ digest, digest ∈ LinkBackend.links store path ↔
      digest ∈ LinkBackend.links start path ∨ digest ∈ digests := by
  induction linked with
  | none => exact ⟨tidy, fun digest => by simp⟩
  | linked before valid ran ih =>
    obtain ⟨tidy, links_iff⟩ := ih
    obtain ⟨tidy', ⟨⟨_, failed⟩, -⟩ | ⟨-, adds⟩⟩ :=
      LinkBackend.addLink_links tidy derived valid ran
    · cases failed
    refine ⟨tidy', fun member => ?_⟩
    rw [adds, links_iff, List.mem_append, List.mem_singleton, or_assoc]
    simp [LinkBackend.samePath_refl]
  | refused before valid ran ih =>
    obtain ⟨tidy, links_iff⟩ := ih
    obtain ⟨tidy', ⟨-, same⟩ | ⟨done, -⟩⟩ := LinkBackend.addLink_links tidy derived valid ran
    · exact ⟨tidy', fun member => same ▸ links_iff member⟩
    · cases done

end Linked

/-! ## In memory -/

namespace MemoryStore

variable {path : String} {store : MemoryStore} {digests : List Digest}

/-- After a link, the set has the members that it had, and the new one if it lacked it. -/
theorem get?_addLink (path : String) (digest : Digest) :
    (store.addLink path digest).links.get? path =
      some (if digest ∈ store.members path then store.members path
        else store.members path ++ [digest]) := by
  by_cases there : digest ∈ store.members path
  · rw [if_pos there]
    rw [members] at there ⊢
    rw [addLink, if_pos there]
    cases known : store.links.get? path with
    | none =>
      rw [known] at there
      cases there
    | some members => rfl
  · rw [if_neg there]
    rw [members] at there ⊢
    rw [addLink, if_neg there, SortedMap.get?_insert, if_pos rfl]

/-- One more digest at the end is a new one or makes no difference. -/
theorem eraseDups_concat (digests : List Digest) (digest : Digest) :
    (digests ++ [digest]).eraseDups =
      if digest ∈ digests then digests.eraseDups else digests.eraseDups ++ [digest] := by
  rw [List.eraseDups_append]
  split
  · next there => simp [List.removeAll, there]
  · next new =>
    have kept : [digest].removeAll digests = [digest] := by simp [List.removeAll, new]
    rw [kept]
    rfl

/-- What was linked in a store that was empty is in the set once, in the order of the first links. -/
theorem get?_of_linked (linked : Linked path ({} : MemoryStore) digests store) :
    store.links.get? path = if digests = [] then none else some digests.eraseDups := by
  induction linked with
  | none => rfl
  | @linked digests digest token world after before valid ran ih =>
    obtain ⟨_, failed, -⟩ | ⟨-, store_eq⟩ := addLink_ran ran
    · cases failed
    have members_eq : world.store.members path = digests.eraseDups := by
      rw [members, ih]
      split
      · next nothing => rw [nothing]; rfl
      · rfl
    have some_linked : digests ++ [digest] ≠ [] := List.concat_ne_nil digest digests
    rw [store_eq, get?_addLink, members_eq, if_neg some_linked, eraseDups_concat]
    simp only [List.mem_eraseDups]
  | refused before valid ran ih =>
    obtain ⟨_, -, store_eq⟩ | ⟨done, -⟩ := addLink_ran ran
    · rw [store_eq, ih]
    · cases done

theorem exists_linked_of_valid (path : String) (valid : ∀ digest ∈ digests, digest.IsValid) :
    ∃ store, Linked path ({} : MemoryStore) digests store := by
  refine (exists_linked (fun _ => True) trivial ?_ valid).imp fun store linked => linked.1
  intro store _ digest _
  have calm : ({ store } : World MemoryStore).interference = .none := rfl
  obtain ⟨after, ran⟩ := addLink_of_calm calm .callers path digest
  exact ⟨after, ran, trivial⟩

end MemoryStore

/-! ## In files -/

namespace FileStore

open FileTree

variable {root repository path : String} {subject member : Digest} {store : FileStore}
  {directory : FileTree.Path} {digests : List Digest}

/-- Files can have the names on the way to the links of a repository. -/
def Usable (root repository : String) : Prop :=
  ∀ name ∈ FileTree.Path.ofText root ++ Text.splitAll '/' repository,
    FitsName name ∧ '\x00' ∉ name.toList

section Usable

variable (usable : Usable root repository)

include usable

theorem Usable.fitting : Fitting root repository := fun name inside => (usable name inside).1

/-- The way to a link can be looked up. -/
theorem Usable.clean (link : LinkDirectory repository directory member) :
    checkNames (FileTree.Path.ofText root ++ directory) = .ok () := by
  obtain ⟨usableRoot, usableRepository⟩ := List.forall_mem_append.mp usable
  rw [checkNames_eq_ok_iff, List.forall_mem_append]
  refine ⟨fun name inside => (usableRoot name inside).2, link.forall_names ?_ ?_ ?_ ?_⟩
  · exact fun name inside => (usableRepository name inside).2
  · decide
  · intro algorithm
    cases algorithm <;> decide
  · intro digest algorithm validates zero
    exact absurd ((Digest.validate_eq_ok validates).2 _ zero) (by decide)

end Usable

/-- There is no set in a store without files. -/
theorem linksAt_empty (root : String) (derived : referrersLinkPath repository subject = .ok path) :
    ∃ error, (⟨root, .empty⟩ : FileStore).linksAt path = .error error ∧
      (error = .pathNotFound path ∨ error.OfMedium) := by
  cases listed : (⟨root, .empty⟩ : FileStore).linksAt path with
  | error error => exact ⟨error, rfl, linksAt_error listed⟩
  | ok members =>
    obtain ⟨_, -, path_eq⟩ := ofText_referrersLinkPath derived
    have below : FileTree.Path.ofText root ++ FileTree.Path.ofText path ≠ [] := by simp [path_eq]
    rw [linksAt] at listed
    split at listed
    · cases listed
    · cases listed
    · next looked => exact absurd looked (subdirectories_empty below)

/-- All files of a store are link files of one repository. -/
structure OnlyLinks (root repository : String) (store : FileStore) : Prop where
  root_eq : store.root = root
  file {path : FileTree.Path} {contents : Bytes}
    (there : FileTree.found path store.tree = some (.file contents)) : path ∈ linkPlaces root repository

theorem onlyLinks_empty (root repository : String) : OnlyLinks root repository ⟨root, .empty⟩ := by
  refine ⟨rfl, fun {path contents} there => ?_⟩
  have blocked : Blocked path .empty := ⟨path, contents, List.prefix_rfl, there⟩
  exact absurd blocked not_blocked_empty

/-- Links are the only files that links make. -/
theorem addLink_onlyLinks (derived : referrersLinkPath repository subject = .ok path) (token : Token)
    (digest : Digest) : Preserves (OnlyLinks root repository) (addLink token path digest) := by
  apply addLink_preserves_of
  · rintro names before _ - only (rfl | ⟨_, tree, -, made, rfl⟩)
    · exact only
    · refine ⟨only.root_eq, fun {path contents} there => ?_⟩
      exact only.file ((found_file_makeDirectories (createDirectories_eq_ok made).2).mp there)
  · rintro names store tree named ⟨rfl, file⟩ created
    obtain ⟨change, writes, updated⟩ := createFile_eq_ok created
    refine ⟨rfl, fun {path' contents} there => ?_⟩
    rw [found_file_update writes updated] at there
    split at there
    · next same =>
      have link : LinkDirectory repository names digest := ⟨subject, path, derived, named⟩
      rw [same, place_snoc]
      exact link.snoc_mem_linkPlaces
    · exact file there

section OnlyLinks

variable (usable : Usable root repository) (only : OnlyLinks root repository store)

include usable only

/-- The directory of a link is not as deep as the files, so none of them is in the way. -/
theorem OnlyLinks.createDirectories (link : LinkDirectory repository directory member) :
    ∃ tree, store.tree.createDirectories (store.place directory) = .ok tree := by
  have free : ¬ Blocked (store.place directory) store.tree := by
    rintro ⟨above, contents, onTheWay, there⟩
    have deep := length_of_mem_linkPlaces (only.file there)
    have within := onTheWay.length_le
    rw [place, List.length_append, link.length_eq, only.root_eq] at within
    omega
  have clean := usable.clean link
  have fits := usable.fitting.link link
  rw [← only.root_eq] at clean fits
  obtain ⟨-, tree, made⟩ | ⟨blocked, -⟩ := makeDirectories_of_fits fits store.tree
  · refine ⟨tree, ?_⟩
    rw [FileTree.createDirectories, place, clean]
    exact made
  · exact absurd blocked free

/-- With nothing in the way, a link is made. -/
theorem OnlyLinks.addLink_ok (tidy : store.Tidy repository)
    (derived : referrersLinkPath repository subject = .ok path) {digest : Digest}
    (valid : digest.IsValid) (token : Token) : ∃ after : World FileStore,
      (Store.addLink token path digest).runIn { store } = (.ok (), after) ∧
        after.store.Tidy repository ∧ OnlyLinks root repository after.store := by
  obtain ⟨algorithm, validates⟩ := valid
  have named : linkNames path digest = .ok _ := linkNames_eq_ok_iff.mpr ⟨algorithm, validates, rfl⟩
  have link : LinkDirectory repository _ digest := ⟨subject, path, derived, named⟩
  obtain ⟨tree, made⟩ := only.createDirectories usable link
  obtain ⟨looks, written⟩ : ∃ looks, (addLink token path digest).runIn { store } = _ :=
    runIn_addLink_of_made rfl token validates made
  obtain ⟨clean, directories⟩ := createDirectories_eq_ok made
  obtain ⟨tidy', -⟩ := tidy.makesWay (.inr ⟨_, tree, List.prefix_rfl, made, rfl⟩) fun _ => ⟨_, link⟩
  obtain ⟨entries, here⟩ := find_makeDirectories directories
  generalize ran : Action.runIn (writeOnce _ _) _ = ending at written
  obtain ⟨result, ended⟩ := ending
  obtain ⟨rfl, tidied, -⟩ := writeOnce_link ran tidy' link named clean here
  have written : (Backend.addLink token path digest).runIn { store } = (.ok (), ended) := written
  have begun : OnlyLinks root repository (World.store { store }) := only
  have ended_only := (addLink_onlyLinks derived token digest).holds written begun
  refine ⟨{ ended with calls := 1 }, ?_, tidied, ended_only⟩
  rw [Store.addLink, runIn_call_of_calm rfl, written]

end OnlyLinks

/-- Digests can be linked when files can have the names on the way; the length of the way as a whole is
not limited. -/
theorem exists_linked_of_usable (usable : Usable root repository)
    (derived : referrersLinkPath repository subject = .ok path)
    (valid : ∀ digest ∈ digests, digest.IsValid) :
    ∃ store, Linked path (⟨root, .empty⟩ : FileStore) digests store := by
  obtain ⟨tidy, -⟩ := tidy_empty repository root
  have begun := And.intro tidy (onlyLinks_empty root repository)
  refine (exists_linked (fun store => store.Tidy repository ∧ OnlyLinks root repository store)
    begun ?_ valid).imp fun store linked => linked.1
  rintro store ⟨tidy, only⟩ digest valid
  exact only.addLink_ok usable tidy derived valid .callers

/-- What was linked in a store that was empty is listed once, in ascending order. -/
theorem listing_of_linked (derived : referrersLinkPath repository subject = .ok path)
    (linked : Linked path (⟨root, .empty⟩ : FileStore) digests store) (some : digests ≠ [])
    (token : Token) :
    ∃ members, Answers store (Store.listLinks token path) (.ok members) ∧
      Digest.Ascending members ∧ ∀ digest, digest ∈ members ↔ digest ∈ digests := by
  obtain ⟨tidy, nothing⟩ := tidy_empty repository root
  obtain ⟨tidy, links_iff⟩ := linked.links_iff tidy derived
  have mem_iff (digest : Digest) : digest ∈ store.links path ↔ digest ∈ digests := by
    have same := links_iff digest
    change _ ↔ digest ∈ FileStore.links _ path ∨ _ at same
    rw [nothing] at same
    exact same.trans (by simp)
  obtain ⟨digest, inside⟩ := List.exists_mem_of_ne_nil digests some
  obtain ⟨members, listed⟩ := tidy.linksAt_ok derived ((mem_iff digest).mpr inside)
  have answers := (FileStore.listLinks_answers store token path).call
  rw [listed] at answers
  refine ⟨members, answers, tidy.ascending_linksAt listed, fun digest => ?_⟩
  rw [tidy.mem_linksAt listed, mem_iff]

end FileStore

/-! ## Both stores -/

/-- A digest with the same digit everywhere. -/
def repeatedDigit (algorithm : Algorithm) (digit : Char) : Digest :=
  ⟨algorithm.name ++ ":" ++ String.ofList (List.replicate algorithm.hexLength digit)⟩

theorem validate_repeatedDigit (algorithm : Algorithm) (digit : Char)
    (lower : Digest.isLowerHex digit = true) :
    (repeatedDigit algorithm digit).validate = .ok algorithm := by
  have text_eq : algorithm.name ++ ":" ++ String.ofList (List.replicate algorithm.hexLength digit) =
      String.ofList
        (algorithm.name.toList ++ ':' :: List.replicate algorithm.hexLength digit) := by
    rw [← String.toList_inj]
    simp
  rw [repeatedDigit, text_eq]
  refine Digest.validate_of_digits algorithm (fun c member => ?_) List.length_replicate
  rwa [List.eq_of_mem_replicate member]

theorem usable_app : FileStore.Usable "" "library/app" := by
  have names_eq : FileTree.Path.ofText "" ++ Text.splitAll '/' "library/app" = ["library", "app"] := by
    decide +kernel
  rw [FileStore.Usable, names_eq]
  simp only [List.forall_mem_cons, List.not_mem_nil, false_implies, implies_true, and_true]
  exact ⟨⟨Nat.le_of_ble_eq_true rfl, by decide⟩, Nat.le_of_ble_eq_true rfl, by decide⟩

end ArtifactRegistry
