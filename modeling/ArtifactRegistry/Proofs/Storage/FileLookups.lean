import ArtifactRegistry.Proofs.Storage.Consistency
import ArtifactRegistry.Proofs.Storage.FileAnswers
import ArtifactRegistry.Proofs.Storage.FileRepositories

/-! # Lookups in arbitrary files

What is said of a blob when the directory of the store may hold anything: `described` and `loaded`
read it off the tree, and with nothing in the way the store answers just that. Both look at two files
only. Trees that look alike from the two are read alike, so a change elsewhere does not show:
`LooksSame`.
-/

namespace ArtifactRegistry

namespace FileTree

variable {path : Path} {tree tree' after : FileTree}

/-! ## Alike trees are read alike -/

/-- Walking down to a watched place ends alike, unless both trees have a directory there. -/
theorem AlikeOn.find_eq (alike : AlikeOn {path} tree tree') (fits : ∀ name ∈ path, FitsName name) :
    find path tree = find path tree' ∨ ∃ entries entries',
      find path tree = .ok (.directory entries) ∧ find path tree' = .ok (.directory entries') := by
  have watched : path ∈ ({path} : Set Path) := rfl
  cases there : found path tree with
  | none =>
    have there' := (alike.none_iff watched).mp there
    by_cases blocked : Blocked path tree
    · have blocked' := (alike.blocked_iff watched List.prefix_rfl).mp blocked
      -- A file at the place itself would have been found.
      rcases find_of_blocked fits blocked with failed | ⟨contents, walked⟩
      · rcases find_of_blocked fits blocked' with failed' | ⟨contents, walked'⟩
        · exact .inl (failed.trans failed'.symm)
        · cases there'.symm.trans (found_of_find walked')
      · cases there.symm.trans (found_of_find walked)
    · have free' : ¬ Blocked path tree' := by
        rwa [← alike.blocked_iff watched List.prefix_rfl]
      left
      rw [find_of_found_none fits there blocked, find_of_found_none fits there' free']
  | some new =>
    cases new with
    | file contents =>
      have there' := (alike.file_iff watched List.prefix_rfl).mp there
      exact .inl ((find_of_found there).trans (find_of_found there').symm)
    | directory entries =>
      obtain ⟨entries', there'⟩ := (alike.directory_iff watched).mp ⟨entries, there⟩
      exact .inr ⟨entries, entries', find_of_found there, find_of_found there'⟩

theorem AlikeOn.read_eq (alike : AlikeOn {path} tree tree') (fits : ∀ name ∈ path, FitsName name) :
    read path tree = read path tree' := by
  rcases alike.find_eq fits with same | ⟨entries, entries', here, here'⟩
  · simp only [read, lookUp, same]
  · simp only [read, lookUp, here, here']
    cases checkNames path <;> rfl

theorem AlikeOn.size_eq (alike : AlikeOn {path} tree tree') (fits : ∀ name ∈ path, FitsName name) :
    size path tree = size path tree' := by
  rcases alike.find_eq fits with same | ⟨entries, entries', here, here'⟩
  · simp only [size, lookUp, same]
  · simp only [size, lookUp, here, here']
    cases checkNames path <;> rfl

/-- Directories are made under names that are not too long only. -/
theorem fits_of_makeDirectories (ran : makeDirectories path tree = .ok after) :
    ∀ name ∈ path, FitsName name := by
  induction path generalizing tree after with
  | nil => exact nofun
  | cons name rest ih =>
    obtain ⟨entries, new, -, fits, -, made⟩ := makeDirectories_cons_eq_ok ran
    exact List.forall_mem_cons.mpr ⟨fits, ih made⟩

/-- Files are written under names that are not too long only. -/
theorem fits_of_update {change : Option FileTree → Except MediumError FileTree}
    (ran : update change path tree = .ok after) : ∀ name ∈ path, FitsName name := by
  induction path generalizing tree after with
  | nil => exact nofun
  | cons name rest ih =>
    obtain ⟨entries, new, -, fits, -, ⟨rfl, -⟩ | ⟨old, -, updated⟩⟩ := update_cons_eq_ok ran
    · exact List.forall_mem_singleton.mpr fits
    · exact List.forall_mem_cons.mpr ⟨fits, ih updated⟩

end FileTree

namespace FileStore

open ArtifactRegistry.Action FileTree

variable {store before after : FileStore} {digest : Digest} {names : FileTree.Path}

/-! ## What is read off the tree -/

/-- The media type of a blob by what its file holds. -/
def typed : Except MediumError String → Except StorageError String
  | .ok text => .ok (if text = "" then unknownMediaType else text)
  | .error .notFound => .ok unknownMediaType
  | .error error => .error (.medium error)

/-- The description of a blob, from the size of its data and its media type. -/
def described (store : FileStore) (digest : Digest) : Except StorageError Descriptor := do
  let names ← (blobNames digest).mapError .invalidDigest
  let size ← (store.tree.size (store.place (names ++ [dataFile]))).mapError (absent digest)
  let mediaType ← typed (textOf (store.read (names ++ [mediaTypeFile])))
  return { mediaType, digest, size := Int64.ofNat size }

/-- The data of a blob, if it hashes to the digest. -/
def loaded (store : FileStore) (digest : Digest) : Except StorageError Bytes := do
  let names ← (blobNames digest).mapError .invalidDigest
  let contents ← (store.read (names ++ [dataFile])).mapError (absent digest)
  if ← (digest.verifies contents).mapError .invalidDigest then return contents
  throw (.corrupted digest)

theorem described_of_named (named : blobNames digest = .ok names) :
    store.described digest =
      ((store.tree.size (store.place (names ++ [dataFile]))).mapError (absent digest)).bind
        fun size => (typed (textOf (store.read (names ++ [mediaTypeFile])))).map
          fun mediaType => { mediaType, digest, size := Int64.ofNat size } := by
  rw [described, named]
  rfl

theorem loaded_of_named (named : blobNames digest = .ok names) :
    store.loaded digest =
      ((store.read (names ++ [dataFile])).mapError (absent digest)).bind fun contents =>
        ((digest.verifies contents).mapError .invalidDigest).bind fun intact =>
          if intact then .ok contents else .error (.corrupted digest) := by
  rw [loaded, named]
  rfl

/-- With nothing in the way, a blob is described by its two files. -/
theorem statBlob_answers (store : FileStore) (token : Token) (digest : Digest) :
    Answers store (Store.statBlob token digest) (store.described digest) := by
  apply ((statBlob_readOnly token digest).answers ?_).call
  rintro world rfl calm
  obtain ⟨looks, live⟩ := runIn_ensureLive_of_calm calm token
  cases named : blobNames digest with
  | error reason =>
    simp only [statBlob, described, runIn_bind, live, runIn_validated, named]
    rfl
  | ok names =>
    simp only [statBlob, runIn_bind, live, runIn_validated, named, mapError_ok, runIn_look,
      described_of_named named, read]
    rcases world.store.tree.size (world.store.place (names ++ [dataFile])) with error | size
    · cases error <;> rfl
    rcases read : textOf (world.store.tree.read (world.store.place (names ++ [mediaTypeFile]))) with
      error | text
    · cases error <;> simp only [runIn_bind, runIn_look, read] <;> rfl
    · simp only [runIn_bind, runIn_look, read]
      rfl

/-- With nothing in the way, the data of a blob is returned if it hashes to the digest. -/
theorem getBlob_answers (store : FileStore) (token : Token) (digest : Digest) :
    Answers store (Store.getBlob token digest) (store.loaded digest) := by
  apply ((getBlob_readOnly token digest).answers ?_).call
  rintro world rfl calm
  obtain ⟨looks, live⟩ := runIn_ensureLive_of_calm calm token
  cases named : blobNames digest with
  | error reason =>
    simp only [getBlob, loaded, runIn_bind, live, runIn_validated, named]
    rfl
  | ok names =>
    simp only [getBlob, runIn_bind, live, runIn_validated, named, mapError_ok, runIn_look,
      loaded_of_named named, read]
    rcases world.store.tree.read (world.store.place (names ++ [dataFile])) with error | contents
    · cases error <;> rfl
    simp only [runIn_bind, runIn_validated, mapError_ok, Except.bind]
    rcases digest.verifies contents with reason | _ | _
    · rfl
    · rfl
    · rfl

/-- A blob is loaded exactly when its data hashes to the digest. -/
theorem loaded_eq_ok_iff {contents : Bytes} : store.loaded digest = .ok contents ↔
    ∃ names, blobNames digest = .ok names ∧ store.read (names ++ [dataFile]) = .ok contents ∧
      digest.verifies contents = .ok true := by
  simp only [loaded, bind_eq_ok_iff, mapError_eq_ok_iff]
  constructor
  · rintro ⟨names, named, contents', data, intact, verified, ended⟩
    cases intact with
    | false => cases ended
    | true =>
      cases ended
      exact ⟨names, named, data, verified⟩
  · rintro ⟨names, named, data, verified⟩
    exact ⟨names, named, contents, data, true, verified, rfl⟩

/-- A blob is described as its media type file says, or as of no known type. -/
theorem described_eq_ok {descriptor : Descriptor} (ran : store.described digest = .ok descriptor) :
    ∃ names, blobNames digest = .ok names ∧
      typed (textOf (store.read (names ++ [mediaTypeFile]))) = .ok descriptor.mediaType := by
  simp only [described, bind_eq_ok_iff, mapError_eq_ok_iff] at ran
  obtain ⟨names, named, size, -, mediaType, reported, ended⟩ := ran
  cases ended
  exact ⟨names, named, reported⟩

/-! ## Changes that do not show -/

/-- A digest is looked up alike in two stores. -/
structure LooksSame (digest : Digest) (before after : FileStore) : Prop where
  described_eq : after.described digest = before.described digest
  loaded_eq : after.loaded digest = before.loaded digest

namespace LooksSame

protected theorem refl : LooksSame digest store store := ⟨rfl, rfl⟩

protected theorem trans {middle : FileStore} (first : LooksSame digest before middle)
    (second : LooksSame digest middle after) : LooksSame digest before after :=
  ⟨second.described_eq.trans first.described_eq, second.loaded_eq.trans first.loaded_eq⟩

/-- What is read off alike is answered alike. -/
theorem sameLookups (same : LooksSame digest before after) : SameLookups digest before after :=
  .of_answers (statBlob_answers before · digest)
    (same.described_eq ▸ statBlob_answers after · digest)
    (getBlob_answers before · digest) (same.loaded_eq ▸ getBlob_answers after · digest)

end LooksSame

/-- The places of the two files of a blob. -/
def blobPlaces (store : FileStore) (digest : Digest) : Set FileTree.Path :=
  {place | ∃ names file, blobNames digest = .ok names ∧ (file = mediaTypeFile ∨ file = dataFile) ∧
    place = store.place (names ++ [file])}

/-- The names on the way to the directory of a blob are not too long. -/
theorem fits_place (fitsRoot : ∀ name ∈ FileTree.Path.ofText store.root, FitsName name)
    (named : blobNames digest = .ok names) : ∀ name ∈ store.place names, FitsName name := by
  obtain ⟨algorithm, validates, rfl⟩ := blobNames_eq_ok_iff.mp named
  simp only [FileStore.place, List.forall_mem_append, List.forall_mem_cons, List.not_mem_nil,
    false_implies, implies_true, and_true]
  exact ⟨fitsRoot, Nat.le_of_ble_eq_true rfl, fits_name algorithm, fits_hex validates⟩

theorem fits_of_mem_blobPlaces {place : FileTree.Path}
    (fitsRoot : ∀ name ∈ FileTree.Path.ofText store.root, FitsName name)
    (watched : place ∈ blobPlaces store digest) : ∀ name ∈ place, FitsName name := by
  obtain ⟨names, file, named, known, rfl⟩ := watched
  rw [place_snoc, List.forall_mem_append, List.forall_mem_singleton]
  exact ⟨fits_place fitsRoot named, fitsName_of_blobFile known⟩

/-- Stores that look alike from the files of a blob look the blob up alike. -/
theorem looksSame_of_alike (root_eq : after.root = before.root)
    (fitsRoot : ∀ name ∈ FileTree.Path.ofText before.root, FitsName name)
    (alike : AlikeOn (blobPlaces before digest) after.tree before.tree) :
    LooksSame digest before after := by
  have place_eq := place_eq_of_root_eq root_eq
  -- What holds of all places holds of each.
  have alikeAt {place : FileTree.Path} (watched : place ∈ blobPlaces before digest) :
      AlikeOn {place} after.tree before.tree := by
    refine ⟨fun {other path contents} same onTheWay => ?_, fun {other} same => ?_⟩
    · rw [Set.mem_singleton_iff.mp same] at onTheWay
      exact alike.file_iff watched onTheWay
    · rw [Set.mem_singleton_iff.mp same]
      exact alike.directory_iff watched
  cases named : blobNames digest with
  | error reason =>
    constructor
    · rw [described, described, named]
      rfl
    · rw [loaded, loaded, named]
      rfl
  | ok names =>
    have mediaType : before.place (names ++ [mediaTypeFile]) ∈ blobPlaces before digest :=
      ⟨names, _, named, .inl rfl, rfl⟩
    have data : before.place (names ++ [dataFile]) ∈ blobPlaces before digest :=
      ⟨names, _, named, .inr rfl, rfl⟩
    have size_eq := (alikeAt data).size_eq (fits_of_mem_blobPlaces fitsRoot data)
    have data_eq := (alikeAt data).read_eq (fits_of_mem_blobPlaces fitsRoot data)
    have mediaType_eq := (alikeAt mediaType).read_eq (fits_of_mem_blobPlaces fitsRoot mediaType)
    constructor
    · simp only [described_of_named named, read, place_eq, size_eq, mediaType_eq]
    · simp only [loaded_of_named named, read, place_eq, data_eq]

/-- Some names lead neither to a file of a blob nor past one. -/
def Apart (digest : Digest) (path : FileTree.Path) : Prop :=
  ∀ names file, blobNames digest = .ok names →
    ¬ names ++ [file] <+: path ∧ ¬ path <+: names ++ [file]

namespace Apart

variable {path : FileTree.Path}

/-- The directory of one blob is apart from all others. -/
theorem of_other {other : Digest} (named : blobNames digest = .ok names) (differs : other ≠ digest) :
    Apart other names :=
  fun _ file named' => apart_of_blobNames named named' differs file

theorem of_links {rest : FileTree.Path} : Apart digest ("repositories" :: rest) :=
  fun _ file named => apart_of_links named file

/-- What is below is apart as well. -/
theorem append (apart : Apart digest path) (rest : FileTree.Path) : Apart digest (path ++ rest) := by
  intro names file named
  obtain ⟨above, below⟩ := apart names file named
  constructor
  · intro within
    rcases List.prefix_or_prefix_of_prefix within (List.prefix_append path rest) with up | down
    · exact above up
    · exact below down
  · intro deeper
    exact below ((List.prefix_append path rest).trans deeper)

theorem not_place_prefix (apart : Apart digest path) {place : FileTree.Path}
    (watched : place ∈ blobPlaces store digest) : ¬ place <+: store.place path := by
  obtain ⟨names, file, named, -, rfl⟩ := watched
  intro within
  exact (apart names file named).1 ((List.prefix_append_right_inj _).mp within)

theorem not_prefix_place (apart : Apart digest path) {place : FileTree.Path}
    (watched : place ∈ blobPlaces store digest) : ¬ store.place path <+: place := by
  obtain ⟨names, file, named, -, rfl⟩ := watched
  intro within
  exact (apart names file named).2 ((List.prefix_append_right_inj _).mp within)

/-- Making a directory elsewhere does not show. -/
theorem looksSame_createDirectories {tree : FileTree} (apart : Apart digest path)
    (made : store.tree.createDirectories (store.place path) = .ok tree) :
    LooksSame digest store { store with tree } := by
  obtain ⟨-, directories⟩ := createDirectories_eq_ok made
  have fits := fits_of_makeDirectories directories
  refine looksSame_of_alike rfl (List.forall_mem_append.mp fits).1 ?_
  exact alikeOn_makeDirectories directories fun place watched => apart.not_place_prefix watched

/-- Writing a file elsewhere does not show. -/
theorem looksSame_update {change : Option FileTree → Except MediumError FileTree} {contents : Bytes}
    {tree : FileTree} (apart : Apart digest path) (writes : Writes change contents)
    (updated : store.tree.update change (store.place path) = .ok tree) :
    LooksSame digest store { store with tree } := by
  have fits := fits_of_update updated
  refine looksSame_of_alike rfl (List.forall_mem_append.mp fits).1 ?_
  exact alikeOn_update writes updated (fun place watched => apart.not_place_prefix watched)
    fun place watched => apart.not_prefix_place watched

theorem looksSame_createFile {file : String} {contents : Bytes} {tree : FileTree}
    (apart : Apart digest path)
    (created : store.tree.createFile (store.place (path ++ [file])) contents = .ok tree) :
    LooksSame digest store { store with tree } := by
  obtain ⟨change, writes, updated⟩ := createFile_eq_ok created
  exact (apart.append [file]).looksSame_update writes updated

theorem looksSame_replaceFile {file : String} {contents : Bytes} {tree : FileTree}
    (apart : Apart digest path)
    (replaced : store.tree.replaceFile (store.place (path ++ [file])) contents = .ok tree) :
    LooksSame digest store { store with tree } := by
  obtain ⟨change, writes, updated⟩ := replaceFile_eq_ok replaced
  exact (apart.append [file]).looksSame_update writes updated

end Apart

end FileStore

end ArtifactRegistry
