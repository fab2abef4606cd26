import ArtifactRegistry.Proofs.Storage.FileRepair

/-! # Puts that fail

A put writes the media type before the payload. Once the directory of the blob is there, only a
directory in the place of the data can stop it, `putBlob_error`, and then the media type may have been
written already. So what is said of a blob is the same after a put that failed as before, unless the
media type has come to stand beside such a directory: `putBlob_failed`. Below a name that is too long
for the medium, a put that fails can leave directories behind, but no lookup gets that far.
-/

namespace ArtifactRegistry

namespace FileTree

variable {path dir : Path} {tree tree' : FileTree} {name : String}
  {entries entries' : List (String × FileTree)}

/-- Nothing is found under names that are too long. -/
theorem fits_of_found {new : FileTree} (there : found path tree = some new) :
    ∀ name ∈ path, FitsName name := by
  induction path generalizing tree with
  | nil => exact nofun
  | cons name rest ih =>
    obtain ⟨entries, below, rfl, fits, looked, inner⟩ := find_cons_eq_ok_iff.mp (find_of_found there)
    exact List.forall_mem_cons.mpr ⟨fits, ih (found_of_find inner)⟩

/-- In two directories, the same entry is looked up alike. -/
theorem lookUp_snoc_congr (here : find dir tree = .ok (.directory entries))
    (here' : find dir tree' = .ok (.directory entries')) (fits : FitsName name)
    (same : entries'.lookup name = entries.lookup name) :
    lookUp (dir ++ [name]) tree' = lookUp (dir ++ [name]) tree := by
  rw [lookUp, lookUp, find_snoc here fits, find_snoc here' fits, same]

theorem size_of_found_directory (clean : checkNames path = .ok ())
    (there : found path tree = some (.directory entries)) :
    size path tree = .ok directorySize := by
  rw [size, lookUp, clean, find_of_found there]
  rfl

/-- A file is made where nothing was. -/
theorem createFile_snoc_eq_ok {contents : Bytes} (here : find dir tree = .ok (.directory entries))
    (fits : FitsName name) (clean : checkNames (dir ++ [name]) = .ok ())
    (created : createFile (dir ++ [name]) contents tree = .ok tree') :
    entries.lookup name = none ∧
      find dir tree' = .ok (.directory (SortedMap.insertEntry name (.file contents) entries)) := by
  cases taken : entries.lookup name with
  | none =>
    obtain ⟨after, created', here'⟩ := createFile_snoc_of_none here fits clean taken contents
    cases created'.symm.trans created
    exact ⟨rfl, here'⟩
  | some old =>
    cases (createFile_snoc_of_some here fits clean taken contents).symm.trans created

/-- No name is too long when all of them fit. -/
theorem createDirectories_ne_nameTooLong (fits : ∀ name ∈ path, FitsName name) (tree : FileTree) :
    createDirectories path tree ≠ .error .nameTooLong := by
  intro refused
  rcases bind_eq_error_iff.mp refused with unclean | ⟨_, -, refused⟩
  · rw [checkNames] at unclean
    split at unclean <;> cases unclean
  · rcases makeDirectories_of_fits fits tree with ⟨-, after, made⟩ | ⟨-, blocked⟩
    · cases made.symm.trans refused
    · exact obstacle_ne (Except.error.inj (blocked.symm.trans refused))

end FileTree

namespace FileStore

open ArtifactRegistry.Action FileTree

variable {store before after : FileStore} {digest : Digest} {names : FileTree.Path}
  {mediaType : String} {payload : Bytes} {made last : FileTree} {world ended : World FileStore}
  {token : Token} {error : StorageError}

/-! ## Where a put can stop -/

/-- What a put leaves behind that stops at its data. -/
structure Abandoned (store : FileStore) (names : FileTree.Path) (mediaType : String)
    (made last : FileTree) : Prop where
  directory : store.tree.createDirectories (store.place names) = .ok made
  /-- The media type is written unless something is there. -/
  mediaType : made.createFile (store.place (names ++ [mediaTypeFile])) (Bytes.ofText mediaType) =
    .ok last ∨ last = made
  /-- A directory is in the place of the data. -/
  obstacle : ∃ inner, store.found (names ++ [dataFile]) = some (.directory inner)

/-- Data that cannot be written are not written. -/
theorem store_of_failed_data {data : FileTree.Path} {descriptor : Descriptor}
    (ran : (do
      if ← needsWriting data (Digest.ofBytes payload) payload then
        orFail (← change fun store => store.tree.replaceFile (store.place data) payload)
      Action.record .debug "stored blob"
        [("digest", .word (Digest.ofBytes payload).text), ("size", .number payload.length)]
      return descriptor : Action FileStore StorageError Descriptor).runIn world =
        (.error error, ended)) : ended.store = world.store := by
  rw [runIn_bind] at ran
  rcases deciding : (needsWriting data (Digest.ofBytes payload) payload).runIn world with
    ⟨reason | needed, decided⟩
  · rw [deciding] at ran
    cases ran
    exact (needsWriting_readOnly _ _ _).store_eq deciding
  rw [← (needsWriting_readOnly _ _ _).store_eq deciding]
  simp only [deciding] at ran
  cases needed with
  | false => cases ran
  | true =>
    simp only [if_true, runIn_bind, runIn_change] at ran
    cases written : decided.store.tree.replaceFile (decided.store.place data) payload with
    | ok last =>
      rw [written] at ran
      cases ran
    | error reason =>
      rw [written] at ran
      cases ran
      rfl

/-- A put fails before it changes anything, or because a directory is in the place of the data. -/
theorem putBlob_error (fitsRoot : ∀ name ∈ FileTree.Path.ofText world.store.root, FitsName name)
    (named : blobNames (Digest.ofBytes payload) = .ok names)
    (ran : (putBlob token mediaType payload).runIn world = (.error error, ended)) :
    ended.store = world.store ∨ ∃ made last, Abandoned world.store names mediaType made last ∧
      ended.store = { world.store with tree := last } := by
  obtain ⟨looks, live | fired⟩ := runIn_ensureLive token world
  rotate_left
  · rw [putBlob, runIn_bind, fired] at ran
    cases ran
    exact .inl rfl
  have validating : (validated (blobNames (Digest.ofBytes payload))).runIn { world with looks } =
      (.ok names, { world with looks }) := by rw [runIn_validated, named, mapError_ok]
  cases directory : world.store.tree.createDirectories (world.store.place names) with
  | error reason =>
    have other : reason ≠ .nameTooLong := by
      rintro rfl
      exact createDirectories_ne_nameTooLong (fits_place fitsRoot named) _ directory
    have making : (makeDirectory names).runIn { world with looks } = (.error (.medium reason), _) :=
      runIn_makeDirectory_of_error directory other
    rw [putBlob, runIn_bind_of_ok live, runIn_bind_of_ok validating, runIn_bind, making] at ran
    cases ran
    exact .inl rfl
  | ok made =>
    -- With the directory made, nothing else could have stopped the put.
    have obstacle : ∃ inner, world.store.found (names ++ [dataFile]) = some (.directory inner) := by
      by_contra regular
      obtain ⟨descriptor, succeeded⟩ :=
        putBlob_of_live live mediaType named directory (not_exists.mp regular)
      rw [ran] at succeeded
      cases succeeded
    obtain ⟨clean, directories⟩ := createDirectories_eq_ok directory
    obtain ⟨entries, here⟩ := find_makeDirectories directories
    let start : World FileStore := withTree { world with looks } made
    have making : (makeDirectory names).runIn { world with looks } = (.ok (), start) :=
      runIn_makeDirectory_of_ok directory
    have here : find (start.store.place names) start.store.tree = .ok (.directory entries) := here
    obtain ⟨last, entries', wrote, -, -⟩ :=
      writeOnce_of_directory here clean (Bytes.ofText mediaType)
    obtain ⟨_, same, written⟩ := writeOnce_ok wrote
    cases congrArg (fun world : World FileStore => world.store.tree) same
    rw [putBlob, runIn_bind_of_ok live, runIn_bind_of_ok validating, runIn_bind_of_ok making,
      runIn_bind_of_ok wrote] at ran
    exact .inr ⟨made, last, ⟨directory, written, obstacle⟩, store_of_failed_data ran⟩

/-! ## What shows of a put that failed -/

/-- A directory is in the place of the data of a blob, and it has got a media type. -/
structure Retyped (digest : Digest) (mediaType : String) (before after : FileStore) : Prop where
  obstacle : ∃ names inner, blobNames digest = .ok names ∧
    before.found (names ++ [dataFile]) = some (.directory inner) ∧
    before.found (names ++ [mediaTypeFile]) = none
  statBlob_before (token : Token) : Answers before (Store.statBlob token digest)
    (.ok { mediaType := unknownMediaType, digest, size := Int64.ofNat directorySize })
  statBlob_after (token : Token) : Answers after (Store.statBlob token digest)
    (.ok {
      mediaType := if mediaType = "" then unknownMediaType else mediaType
      digest, size := Int64.ofNat directorySize })
  getBlob_same (token : Token) : ∃ result, Answers before (Store.getBlob token digest) result ∧
    Answers after (Store.getBlob token digest) result

section Entries

variable {entries entries' : List (String × FileTree)} (named : blobNames digest = .ok names)
  (root_eq : after.root = before.root)
  (here : find (before.place names) before.tree = .ok (.directory entries))
  (here' : find (before.place names) after.tree = .ok (.directory entries'))

include root_eq here here'

theorem lookUp_eq_of_entries {file : String} (known : file = mediaTypeFile ∨ file = dataFile)
    (same : entries'.lookup file = entries.lookup file) :
    lookUp (after.place (names ++ [file])) after.tree =
      lookUp (before.place (names ++ [file])) before.tree := by
  rw [place_eq_of_root_eq root_eq, place_snoc]
  exact lookUp_snoc_congr here here' (fitsName_of_blobFile known) same

include named

/-- With the same entry for its data, a blob is loaded alike. -/
theorem loaded_eq_of_entries (same : entries'.lookup dataFile = entries.lookup dataFile) :
    after.loaded digest = before.loaded digest := by
  have data_eq := lookUp_eq_of_entries root_eq here here' (.inr rfl) same
  simp only [loaded_of_named named, read, FileTree.read, data_eq]

/-- With the same entries for its two files, a blob is looked up alike. -/
theorem looksSame_of_entries (same : ∀ file, file = mediaTypeFile ∨ file = dataFile →
    entries'.lookup file = entries.lookup file) : LooksSame digest before after := by
  have mediaType_eq := lookUp_eq_of_entries root_eq here here' (.inl rfl) (same _ (.inl rfl))
  have data_eq := lookUp_eq_of_entries root_eq here here' (.inr rfl) (same _ (.inr rfl))
  refine ⟨?_, loaded_eq_of_entries named root_eq here here' (same _ (.inr rfl))⟩
  simp only [described_of_named named, read, FileTree.read, size, mediaType_eq, data_eq]

end Entries

section Directory

variable {entries : List (String × FileTree)}
  (here : find (store.place names) store.tree = .ok (.directory entries))
  (clean : checkNames (store.place names) = .ok ())

include here

theorem found_blobFile {file : String} (known : file = mediaTypeFile ∨ file = dataFile) :
    store.found (names ++ [file]) = entries.lookup file := by
  rw [found, place_snoc, found_snoc here (fitsName_of_blobFile known)]

include clean

theorem typed_of_none (vacant : entries.lookup mediaTypeFile = none) :
    typed (textOf (store.read (names ++ [mediaTypeFile]))) = .ok unknownMediaType := by
  have cleanFile := checkNames_blobFile clean (.inl rfl)
  rw [read, place_snoc, read_snoc_of_none here (fitsName_of_blobFile (.inl rfl)) cleanFile vacant]
  rfl

theorem typed_of_text {text : String}
    (there : entries.lookup mediaTypeFile = some (.file (Bytes.ofText text))) :
    typed (textOf (store.read (names ++ [mediaTypeFile]))) =
      .ok (if text = "" then unknownMediaType else text) := by
  have cleanFile := checkNames_blobFile clean (.inl rfl)
  rw [read, place_snoc, read_snoc_of_some here (fitsName_of_blobFile (.inl rfl)) cleanFile there,
    textOf_ofText]
  rfl

/-- With a directory in the place of its data, a blob is described by its media type alone. -/
theorem described_of_directory {inner : List (String × FileTree)} {reported : String}
    (named : blobNames digest = .ok names) (obstacle : entries.lookup dataFile = some (.directory inner))
    (reads : typed (textOf (store.read (names ++ [mediaTypeFile]))) = .ok reported) :
    store.described digest =
      .ok { mediaType := reported, digest, size := Int64.ofNat directorySize } := by
  have cleanData := checkNames_blobFile clean (.inr rfl)
  rw [← place_snoc] at cleanData
  have there := (found_blobFile here (.inr rfl)).trans obstacle
  rw [described_of_named named, size_of_found_directory cleanData there, reads]
  rfl

end Directory

/-- Whoever looks a digest up gets an error. -/
def Unreadable (digest : Digest) (store : FileStore) : Prop :=
  ∀ token, (∃ error, Answers store (Store.statBlob token digest) (.error error)) ∧
    ∃ error, Answers store (Store.getBlob token digest) (.error error)

namespace Abandoned

variable (abandoned : Abandoned store names mediaType made last)

include abandoned

/-- The directory of the blob was there, and making it has left its two files alone. -/
theorem directories : ∃ entries entries',
    find (store.place names) store.tree = .ok (.directory entries) ∧
      find (store.place names) made = .ok (.directory entries') ∧
      ∀ file, file = mediaTypeFile ∨ file = dataFile →
        entries'.lookup file = entries.lookup file := by
  obtain ⟨clean, directories⟩ := createDirectories_eq_ok abandoned.directory
  obtain ⟨inner, there⟩ := abandoned.obstacle
  rw [found, place_snoc] at there
  obtain ⟨entries, here⟩ := directory_of_found_append there
  obtain ⟨entries', here'⟩ := find_makeDirectories directories
  refine ⟨entries, entries', here, here', fun file known => ?_⟩
  rw [← found_snoc here (fitsName_of_blobFile known), ← found_snoc here' (fitsName_of_blobFile known)]
  exact found_makeDirectories directories (file_not_above _ _)

/-- When its media type is written, the blob is described by it, and loaded as before. -/
theorem retyped (named : blobNames digest = .ok names)
    (created : made.createFile (store.place (names ++ [mediaTypeFile])) (Bytes.ofText mediaType) =
      .ok last) : Retyped digest mediaType store { store with tree := last } := by
  let after : FileStore := { store with tree := last }
  obtain ⟨clean, -⟩ := createDirectories_eq_ok abandoned.directory
  obtain ⟨entries, middle, here, made_here, same⟩ := abandoned.directories
  obtain ⟨inner, obstacle⟩ := abandoned.obstacle
  rw [found_blobFile here (.inr rfl)] at obstacle
  rw [place_snoc] at created
  obtain ⟨vacant, last_here⟩ := createFile_snoc_eq_ok made_here (fitsName_of_blobFile (.inl rfl))
    (checkNames_blobFile clean (.inl rfl)) created
  rw [same _ (.inl rfl)] at vacant
  obtain ⟨entries', here', mediaType_eq, data_eq⟩ : ∃ entries',
      find (after.place names) after.tree = .ok (.directory entries') ∧
        entries'.lookup mediaTypeFile = some (.file (Bytes.ofText mediaType)) ∧
        entries'.lookup dataFile = entries.lookup dataFile := by
    refine ⟨_, last_here, ?_, ?_⟩
    · rw [SortedMap.lookup_insertEntry, if_pos rfl]
    · rw [SortedMap.lookup_insertEntry, if_neg (by decide), same _ (.inr rfl)]
  have described := described_of_directory here clean named obstacle (typed_of_none here clean vacant)
  have described' := described_of_directory here' clean named (data_eq.trans obstacle)
    (typed_of_text here' clean mediaType_eq)
  have loaded_eq : after.loaded digest = store.loaded digest :=
    loaded_eq_of_entries named rfl here here' data_eq
  refine ⟨⟨names, inner, named, ?_, ?_⟩, fun token => ?_, fun token => ?_, fun token => ?_⟩
  · rw [found_blobFile here (.inr rfl), obstacle]
  · rw [found_blobFile here (.inl rfl), vacant]
  · rw [← described]
    exact statBlob_answers store token digest
  · rw [← described']
    exact statBlob_answers after token digest
  · refine ⟨_, getBlob_answers store token digest, ?_⟩
    rw [← loaded_eq]
    exact getBlob_answers after token digest

/-- The blob is looked up as before, or has got a media type. -/
theorem looksSame_or_retyped (named : blobNames digest = .ok names) :
    LooksSame digest store { store with tree := last } ∨
      Retyped digest mediaType store { store with tree := last } := by
  rcases abandoned.mediaType with created | rfl
  · exact .inr (abandoned.retyped named created)
  · obtain ⟨entries, entries', here, here', same⟩ := abandoned.directories
    exact .inl (looksSame_of_entries named rfl here here' same)

end Abandoned

/-- Nothing can be looked up below a name that is too long. -/
theorem unreadable_of_long {name : String} (onTheWay : name ∈ FileTree.Path.ofText store.root)
    (long : ¬ FitsName name) : Unreadable digest store := by
  have missing (names : FileTree.Path) : store.found names = none := by
    cases there : store.found names with
    | none => rfl
    | some new => exact absurd (fits_of_found there name (List.mem_append_left _ onTheWay)) long
  intro token
  constructor
  · cases described : store.described digest with
    | error error => exact ⟨error, described ▸ statBlob_answers store token digest⟩
    | ok descriptor =>
      simp only [FileStore.described, bind_eq_ok_iff, mapError_eq_ok_iff] at described
      obtain ⟨names, -, size, sized, -⟩ := described
      obtain ⟨error, failed⟩ := size_of_found_none (missing (names ++ [dataFile]))
      cases failed.symm.trans sized
  · cases loaded : store.loaded digest with
    | error error => exact ⟨error, loaded ▸ getBlob_answers store token digest⟩
    | ok contents =>
      obtain ⟨names, -, data, -⟩ := loaded_eq_ok_iff.mp loaded
      cases (missing _).symm.trans (read_eq_ok_iff.mp data).2

theorem putBlob_root (root : String) (token : Token) (mediaType : String) (payload : Bytes) :
    Preserves (fun store => store.root = root) (putBlob token mediaType payload) := by
  apply putBlob_preserves_of
  · rintro names before after - holds (rfl | ⟨_, _, -, -, rfl⟩)
    · exact holds
    · exact holds
  · intro names file store change contents tree _ _ _ _ holds
    exact holds

/-- After a put that failed, whatever the files held and whatever interfered, every digest is looked up
as before, but for two exceptions. When a directory is in the place of the data and nothing in that of
the media type, the blob that was put may have got the media type, and what is said of it has
changed. Below a name that is too long, lookups fail before and after, if not with the same error. -/
theorem putBlob_failed
    (ran : (Store.putBlob token mediaType payload).runIn world = (.error error, ended))
    (digest : Digest) :
    SameLookups digest world.store ended.store ∨
      digest = Digest.ofBytes payload ∧ Retyped digest mediaType world.store ended.store ∨
      (∃ name ∈ FileTree.Path.ofText world.store.root, ¬ FitsName name) ∧
        Unreadable digest world.store ∧ Unreadable digest ended.store := by
  obtain ⟨_, -, unchanged⟩ | ⟨returned, done, store_eq⟩ := call_ran ran
  · rw [unchanged]
    exact .inl (.refl _)
  rw [store_eq]
  by_cases fitsRoot : ∀ name ∈ FileTree.Path.ofText world.store.root, FitsName name
  · have named := blobNames_ofBytes payload
    obtain unchanged | ⟨made, last, abandoned, store_eq⟩ := putBlob_error fitsRoot named done
    · rw [unchanged]
      exact .inl (.refl _)
    rw [store_eq]
    by_cases own : digest = Digest.ofBytes payload
    · subst own
      rcases abandoned.looksSame_or_retyped named with same | retyped
      · exact .inl same.sameLookups
      · exact .inr (.inl ⟨rfl, retyped⟩)
    · have same := looksSame_of_begun (.of_other named own) abandoned.directory abandoned.mediaType
      exact .inl same.sameLookups
  · obtain ⟨name, onTheWay, long⟩ := not_forall₂.mp fitsRoot
    have root_eq := (putBlob_root _ token mediaType payload).holds done rfl
    refine .inr (.inr ⟨⟨name, onTheWay, long⟩, unreadable_of_long onTheWay long, ?_⟩)
    exact unreadable_of_long (root_eq ▸ onTheWay) long

/-- A store in which a directory is in the place of the data of a blob. -/
def obstructedStore (payload : Bytes) : FileStore :=
  ⟨"", .directory [("blobs", .directory [(Algorithm.sha256.name, .directory
    [((Digest.ofBytes payload).hex, .directory [(dataFile, .empty)])])])]⟩

/-- A put that meets the directory leaves other blobs alone. -/
theorem putBlob_failed_elsewhere : ∃ error ended,
    (Store.putBlob .callers "text/plain" [0]).runIn { store := obstructedStore [0] } =
        (.error error, ended) ∧
      SameLookups (Digest.ofBytes []) (obstructedStore [0]) ended.store := by
  have fails : ((Store.putBlob .callers "text/plain" [0]).runIn
      { store := obstructedStore [0] }).1.isOk = false := by decide +kernel
  rcases ran : (Store.putBlob .callers "text/plain" [0]).runIn { store := obstructedStore [0] } with
    ⟨error | descriptor, ended⟩
  · refine ⟨error, ended, rfl, ?_⟩
    rcases putBlob_failed ran (Digest.ofBytes []) with same | ⟨own, -⟩ | ⟨⟨name, onTheWay, -⟩, -⟩
    · exact same
    · exact absurd own (by decide +kernel)
    · have bare : FileTree.Path.ofText "" = [] := by decide
      rw [obstructedStore, bare] at onTheWay
      cases onTheWay
  · rw [ran] at fails
    cases fails

/-- A put that fails can make a directory pass for the data of a manifest. -/
theorem putBlob_failed_retypes : ∃ error ended,
    (Store.putBlob .callers Manifest.Kind.index.mediaType [0]).runIn
        { store := obstructedStore [0] } = (.error error, ended) ∧
      ((Store.statBlob .callers (Digest.ofBytes [0])).runIn
        { store := obstructedStore [0] }).1.toOption.map Descriptor.mediaType =
          some unknownMediaType ∧
      ((Store.statBlob .callers (Digest.ofBytes [0])).runIn
        { store := ended.store }).1.toOption.map Descriptor.mediaType =
          some Manifest.Kind.index.mediaType := by
  have outcome : ((Store.putBlob .callers Manifest.Kind.index.mediaType [0]).runIn
      { store := obstructedStore [0] }).1.isOk = false := by decide +kernel
  have reported : ((Store.statBlob .callers (Digest.ofBytes [0])).runIn
      { store := ((Store.putBlob .callers Manifest.Kind.index.mediaType [0]).runIn
        { store := obstructedStore [0] }).2.store }).1.toOption.map Descriptor.mediaType =
          some Manifest.Kind.index.mediaType := by decide +kernel
  rcases ran : (Store.putBlob .callers Manifest.Kind.index.mediaType [0]).runIn
    { store := obstructedStore [0] } with ⟨error | descriptor, ended⟩
  · rw [ran] at reported
    exact ⟨error, ended, rfl, by decide +kernel, reported⟩
  · rw [ran] at outcome
    cases outcome

end FileStore

end ArtifactRegistry
