import ArtifactRegistry.Proofs.Storage.FileLookups

/-! # Puts over whatever is there

A put that succeeds has gone through three steps, whatever the files held before, `PutSteps`: the
directory of the blob is made, its media type is written unless something is there, and its payload is
written unless what is there has the length and the hash of the payload. So the payload can be read
afterwards, torn or corrupted data are repaired, and no file of another blob has changed:
`putBlob_repairs`. Only a directory in place of a file can stop a put that nothing interferes with,
`putBlob_succeeds`.
-/

namespace ArtifactRegistry

/-- No other payload in a store has the digest of this one. -/
def CollisionFree {σ : Type} [Backend σ] (store : σ) (payload : Bytes) : Prop :=
  ∀ contents, HasBlob store (Digest.ofBytes payload) contents →
    Digest.ofBytes contents = Digest.ofBytes payload → contents = payload

namespace FileStore

open ArtifactRegistry.Action FileTree

variable {store : FileStore} {digest : Digest} {names : FileTree.Path} {mediaType : String}
  {payload : Bytes} {made typed last : FileTree} {world ended : World FileStore} {token : Token}

/-! ## The decision to write -/

/-- What is at a place has the length and the hash of a payload. -/
def Intact (store : FileStore) (names : FileTree.Path) (payload : Bytes) : Prop :=
  ∃ contents, store.read names = .ok contents ∧ contents.length = payload.length ∧
    (Digest.ofBytes payload).verifies contents = .ok true

/-- What a store returns under a digest is in the data file, and hashes to the digest. -/
theorem hasBlob_iff_loaded {contents : Bytes} :
    HasBlob store digest contents ↔ store.loaded digest = .ok contents := by
  constructor
  · intro has
    exact (getBlob_answers store .fresh digest).unique (has .fresh)
  · intro loaded token
    rw [← loaded]
    exact getBlob_answers store token digest

/-- Data that hash to the digest of a payload are the payload. -/
theorem eq_of_verifies {contents : Bytes} (collisionFree : CollisionFree store payload)
    (named : blobNames (Digest.ofBytes payload) = .ok names)
    (data : store.read (names ++ [dataFile]) = .ok contents)
    (verified : (Digest.ofBytes payload).verifies contents = .ok true) : contents = payload := by
  apply collisionFree contents
  · exact hasBlob_iff_loaded.mpr (loaded_eq_ok_iff.mpr ⟨names, named, data, verified⟩)
  · exact Digest.ofBytes_eq_iff.mpr verified

/-- A payload is written exactly when what is there is not intact. -/
theorem needsWriting_ran {needed : Bool}
    (ran : (needsWriting names (Digest.ofBytes payload) payload).runIn world = (.ok needed, ended)) :
    ended.store = world.store ∧ (needed = false ↔ world.store.Intact names payload) := by
  refine ⟨(needsWriting_readOnly names _ payload).store_eq ran, ?_⟩
  constructor
  · rintro rfl
    simp only [needsWriting, runIn_bind, runIn_get, runIn_look] at ran
    rcases sized : world.store.tree.size (world.store.place names) with error | size
    · rw [sized] at ran
      cases error <;> cases ran
    simp only [sized] at ran
    split at ran
    · next length_eq =>
      simp only [runIn_bind, runIn_look, runIn_orFail, runIn_validated] at ran
      rcases there : world.store.tree.read (world.store.place names) with error | contents
      · rw [there] at ran
        cases ran
      rw [there, mapError_ok] at ran
      rcases verified : (Digest.ofBytes payload).verifies contents with reason | _ | _
      · simp only [verified] at ran
        cases ran
      · simp only [verified] at ran
        cases ran
      · have size_eq := sized.symm.trans (size_of_read there)
        rw [Except.ok.injEq] at size_eq
        exact ⟨contents, there, size_eq.symm.trans length_eq, verified⟩
    · cases ran
  · rintro ⟨contents, there, length_eq, verified⟩
    rw [runIn_needsWriting_of_intact there length_eq verified] at ran
    cases ran
    rfl

/-! ## The steps of a put -/

/-- A change that succeeds has been made. -/
theorem change_ok {edit : FileStore → Except MediumError FileTree}
    (ran : (change edit).runIn world = (.ok (.ok ()), ended)) :
    ∃ tree, edit world.store = .ok tree ∧ ended = withTree world tree := by
  rw [runIn_change] at ran
  cases edited : edit world.store with
  | ok tree =>
    rw [edited] at ran
    cases ran
    exact ⟨tree, rfl, rfl⟩
  | error error =>
    rw [edited] at ran
    cases ran

/-- A file that is written once is written, or something was there. -/
theorem writeOnce_ok {contents : Bytes}
    (ran : (writeOnce names contents).runIn world = (.ok (), ended)) :
    ∃ tree, ended = withTree world tree ∧
      (world.store.tree.createFile (world.store.place names) contents = .ok tree ∨
        tree = world.store.tree) := by
  rw [runIn_writeOnce] at ran
  cases created : world.store.tree.createFile (world.store.place names) contents with
  | ok tree =>
    rw [created] at ran
    cases ran
    exact ⟨tree, rfl, .inl rfl⟩
  | error error =>
    have unchanged : ended = world := by
      rw [created] at ran
      cases error <;> cases ran
      rfl
    exact ⟨_, unchanged, .inr rfl⟩

/-- The trees that a put that succeeds leads through. -/
structure PutSteps (store : FileStore) (names : FileTree.Path) (mediaType : String)
    (payload : Bytes) (made typed last : FileTree) : Prop where
  directory : store.tree.createDirectories (store.place names) = .ok made
  /-- The media type is written unless something is there. -/
  mediaType : made.createFile (store.place (names ++ [mediaTypeFile])) (Bytes.ofText mediaType) =
    .ok typed ∨ typed = made
  /-- The payload is written unless what is there is intact. -/
  data : ({ store with tree := typed } : FileStore).Intact (names ++ [dataFile]) payload ∧
      last = typed ∨
    ¬ ({ store with tree := typed } : FileStore).Intact (names ++ [dataFile]) payload ∧
      typed.replaceFile (store.place (names ++ [dataFile])) payload = .ok last

/-- A put that succeeds has gone through all of its steps. -/
theorem putBlob_ok {descriptor : Descriptor}
    (ran : (putBlob token mediaType payload).runIn world = (.ok descriptor, ended)) :
    descriptor = { mediaType, digest := .ofBytes payload, size := Int64.ofNat payload.length } ∧
      ∃ names made typed last, blobNames (Digest.ofBytes payload) = .ok names ∧
        PutSteps world.store names mediaType payload made typed last ∧
        ended.store = { world.store with tree := last } := by
  have named := blobNames_ofBytes payload
  simp only [putBlob, runIn_bind_eq_ok_iff, runIn_validated, named, mapError_ok] at ran
  generalize ["blobs", Algorithm.sha256.name, (Digest.ofBytes payload).hex] = names at named ran
  obtain ⟨⟨⟩, started, live, _, _, ⟨⟩, ⟨⟩, begun, making, ⟨⟩, wrote, writing, needed, decided,
    deciding, ran⟩ := ran
  have store_eq : started.store = world.store := (ReadOnly.ensureLive token).store_eq live
  obtain ⟨-, ⟨made, directory, -, rfl⟩ | ⟨error, failed⟩⟩ := makeDirectory_ran making
  rotate_left
  · cases failed
  obtain ⟨typed, rfl, mediaType⟩ := writeOnce_ok writing
  obtain ⟨kept, needed_iff⟩ := needsWriting_ran deciding
  simp only [withTree, store_eq] at directory mediaType kept needed_iff
  cases needed with
  | false =>
    simp only [Bool.false_eq_true, if_false, runIn_bind, runIn_record, runIn_pure] at ran
    cases ran
    exact ⟨rfl, names, made, typed, typed, named,
      ⟨directory, mediaType, .inl ⟨needed_iff.mp rfl, rfl⟩⟩, kept⟩
  | true =>
    simp only [if_true, runIn_bind_eq_ok_iff, runIn_orFail] at ran
    obtain ⟨replaced, written, replacing, ⟨⟩, _, passed, _, _, ⟨⟩, ⟨⟩⟩ := ran
    cases replaced with
    | error error => cases passed
    | ok _ =>
    cases passed
    obtain ⟨last, edited, rfl⟩ := change_ok replacing
    have notIntact := mt needed_iff.mpr (by decide)
    refine ⟨rfl, names, made, typed, last, named, ⟨directory, mediaType, .inr ⟨notIntact, ?_⟩⟩, ?_⟩
    · rwa [kept] at edited
    · simp only [withTree, kept]

/-! ## What the steps change -/

/-- Making the directory of a blob and writing its media type does not show of other blobs. -/
theorem looksSame_of_begun {other : Digest} (apart : Apart other names)
    (directory : store.tree.createDirectories (store.place names) = .ok made)
    (mediaType_written : made.createFile (store.place (names ++ [mediaTypeFile]))
      (Bytes.ofText mediaType) = .ok typed ∨ typed = made) :
    LooksSame other store { store with tree := typed } := by
  have first : LooksSame other store { store with tree := made } :=
    apart.looksSame_createDirectories directory
  have second : LooksSame other { store with tree := made } { store with tree := typed } := by
    rcases mediaType_written with created | rfl
    · exact apart.looksSame_createFile created
    · exact .refl
  exact first.trans second

namespace PutSteps

variable (steps : PutSteps store names mediaType payload made typed last)

include steps

/-- Before the payload is written, only the file of the media type may be new. -/
theorem typed_file_iff {path : FileTree.Path} {contents : Bytes}
    (other : path ≠ store.place (names ++ [mediaTypeFile])) :
    FileTree.found path typed = some (.file contents) ↔
      FileTree.found path store.tree = some (.file contents) := by
  have directories := (createDirectories_eq_ok steps.directory).2
  rcases steps.mediaType with created | rfl
  · obtain ⟨change, writes, updated⟩ := createFile_eq_ok created
    rw [found_file_update writes updated, if_neg other, found_file_makeDirectories directories]
  · exact found_file_makeDirectories directories

/-- The data are the same as before when it is decided whether to write them. -/
theorem typed_read_iff {contents : Bytes} :
    ({ store with tree := typed } : FileStore).read (names ++ [dataFile]) = .ok contents ↔
      store.read (names ++ [dataFile]) = .ok contents := by
  rw [read_eq_ok_iff, read_eq_ok_iff]
  refine and_congr_right fun _ => steps.typed_file_iff ?_
  rw [place_snoc, place_snoc]
  intro same
  exact absurd (List.append_cancel_left same) (by decide)

theorem typed_intact_iff :
    ({ store with tree := typed } : FileStore).Intact (names ++ [dataFile]) payload ↔
      store.Intact (names ++ [dataFile]) payload :=
  exists_congr fun _ => and_congr_left' steps.typed_read_iff

/-- Data that are intact are left as they are. -/
theorem last_eq_of_intact (intact : store.Intact (names ++ [dataFile]) payload) : last = typed := by
  rcases steps.data with ⟨-, same⟩ | ⟨notIntact, -⟩
  · exact same
  · exact absurd (steps.typed_intact_iff.mpr intact) notIntact

/-- In the end the payload is there, or data that were taken for it. -/
theorem last_read : ∃ contents,
    ({ store with tree := last } : FileStore).read (names ++ [dataFile]) = .ok contents ∧
      (contents = payload ∨ store.read (names ++ [dataFile]) = .ok contents ∧
        (Digest.ofBytes payload).verifies contents = .ok true) := by
  rcases steps.data with ⟨⟨contents, there, -, verified⟩, rfl⟩ | ⟨-, written⟩
  · exact ⟨contents, there, .inr ⟨steps.typed_read_iff.mp there, verified⟩⟩
  · obtain ⟨⟨⟩, clean, -⟩ := bind_eq_ok_iff.mp written
    obtain ⟨change, writes, updated⟩ := replaceFile_eq_ok written
    have there : FileTree.found (store.place (names ++ [dataFile])) last = some (.file payload) := by
      rw [found_file_update writes updated, if_pos rfl]
    exact ⟨payload, read_eq_ok_iff.mpr ⟨clean, there⟩, .inl rfl⟩

/-- Nothing outside the directory of the blob changes. -/
theorem sameOutside : SameOutside names store { store with tree := last } := by
  have first : SameOutside names store { store with tree := made } :=
    MakesWay.sameOutside (.inr ⟨_, made, List.prefix_rfl, steps.directory, rfl⟩)
  have second : SameOutside names { store with tree := made } { store with tree := typed } := by
    rcases steps.mediaType with created | rfl
    · exact .of_file (sameOutside_createFile created)
    · exact .refl
  have third : SameOutside names { store with tree := typed } { store with tree := last } := by
    rcases steps.data with ⟨-, rfl⟩ | ⟨-, written⟩
    · exact .refl
    · exact .of_file (sameOutside_replaceFile written)
  exact (first.trans second).trans third

/-- All other blobs are looked up as before. -/
theorem looksSame {other : Digest} (apart : Apart other names) :
    LooksSame other store { store with tree := last } := by
  have begun := looksSame_of_begun apart steps.directory steps.mediaType
  have ended : LooksSame other { store with tree := typed } { store with tree := last } := by
    rcases steps.data with ⟨-, rfl⟩ | ⟨-, written⟩
    · exact .refl
    · exact apart.looksSame_replaceFile written
  exact begun.trans ended

end PutSteps

/-- After a put that succeeds, the payload is loaded. -/
theorem hasBlob_of_putBlob {descriptor : Descriptor} (collisionFree : CollisionFree world.store payload)
    (ran : (putBlob token mediaType payload).runIn world = (.ok descriptor, ended)) :
    HasBlob ended.store (Digest.ofBytes payload) payload := by
  obtain ⟨-, names, made, typed, last, named, steps, store_eq⟩ := putBlob_ok ran
  obtain ⟨contents, there, rfl | ⟨before, verified⟩⟩ := steps.last_read
  · rw [hasBlob_iff_loaded, loaded_eq_ok_iff, store_eq]
    exact ⟨names, named, there, Digest.verifies_ofBytes contents⟩
  · obtain rfl := eq_of_verifies collisionFree named before verified
    rw [hasBlob_iff_loaded, loaded_eq_ok_iff, store_eq]
    exact ⟨names, named, there, verified⟩

/-! ## Puts that succeed -/

section Directory

variable {entries : List (String × FileTree)}
  (here : find (world.store.place names) world.store.tree = .ok (.directory entries))
  (clean : checkNames (world.store.place names) = .ok ())

include here clean

/-- In a directory, the media type is written or left as it is; the data stay. -/
theorem writeOnce_of_directory (contents : Bytes) : ∃ tree entries',
    (writeOnce (names ++ [mediaTypeFile]) contents).runIn world = (.ok (), withTree world tree) ∧
      find (world.store.place names) tree = .ok (.directory entries') ∧
      entries'.lookup dataFile = entries.lookup dataFile := by
  have fits := fitsName_of_blobFile (.inl rfl)
  have cleanFile := checkNames_blobFile clean (.inl rfl)
  cases taken : entries.lookup mediaTypeFile with
  | none =>
    obtain ⟨tree, created, here'⟩ := createFile_snoc_of_none here fits cleanFile taken contents
    refine ⟨tree, _, ?_, here', ?_⟩
    · rw [runIn_writeOnce, place_snoc, created]
    · rw [SortedMap.lookup_insertEntry, if_neg (by decide)]
  | some old =>
    refine ⟨world.store.tree, entries, ?_, here, rfl⟩
    rw [runIn_writeOnce, place_snoc, createFile_snoc_of_some here fits cleanFile taken contents]
    rfl

variable (regular : ∀ inner, entries.lookup dataFile ≠ some (.directory inner))

include regular

/-- Unless a directory is in the place of the data, it can be decided whether to write them. -/
theorem needsWriting_of_directory (payload : Bytes) : ∃ needed output,
    (needsWriting (names ++ [dataFile]) (Digest.ofBytes payload) payload).runIn world =
      (.ok needed, { world with output }) := by
  have fits := fitsName_of_blobFile (.inr rfl)
  have cleanFile := checkNames_blobFile clean (.inr rfl)
  cases taken : entries.lookup dataFile with
  | none =>
    refine ⟨true, world.output, runIn_needsWriting_of_missing ?_⟩
    rw [place_snoc, size_snoc_of_none here fits cleanFile taken]
  | some old =>
    cases old with
    | directory inner => exact absurd taken (regular inner)
    | file contents =>
      have there : world.store.read (names ++ [dataFile]) = .ok contents := by
        rw [read, place_snoc, read_snoc_of_some here fits cleanFile taken]
      by_cases length_eq : contents.length = payload.length
      · obtain ⟨intact, verified⟩ : ∃ intact, (Digest.ofBytes payload).verifies contents = .ok intact :=
          ⟨_, by rw [Digest.verifies, Digest.validate_ofBytes]; rfl⟩
        have sized : world.store.tree.size (world.store.place (names ++ [dataFile])) =
            .ok payload.length := length_eq ▸ size_of_read there
        rw [read] at there
        simp only [needsWriting, runIn_bind, runIn_get, runIn_look, sized, if_true, there,
          runIn_orFail, mapError_ok, runIn_validated, verified]
        cases intact with
        | true => exact ⟨_, _, rfl⟩
        | false => exact ⟨_, _, rfl⟩
      · obtain ⟨output, needed⟩ := runIn_needsWriting_of_length_ne there length_eq
        exact ⟨true, output, needed⟩

/-- Unless a directory is in the place of the data, they can be written. -/
theorem replaceFile_of_directory (payload : Bytes) : ∃ tree,
    world.store.tree.replaceFile (world.store.place (names ++ [dataFile])) payload = .ok tree := by
  have fits := fitsName_of_blobFile (.inr rfl)
  have cleanFile := checkNames_blobFile clean (.inr rfl)
  rw [place_snoc]
  cases taken : entries.lookup dataFile with
  | none =>
    obtain ⟨tree, written, -⟩ := replaceFile_snoc_of_none here fits cleanFile taken payload
    exact ⟨tree, written⟩
  | some old =>
    cases old with
    | directory inner => exact absurd taken (regular inner)
    | file contents =>
      obtain ⟨tree, written, -⟩ := replaceFile_snoc_of_file here fits cleanFile taken payload
      exact ⟨tree, written⟩

/-- Unless a directory is in the place of the data, the files of the blob can be written. -/
theorem files_of_directory (mediaType : String) (payload : Bytes) : ∃ typed needed output last,
    (writeOnce (names ++ [mediaTypeFile]) (Bytes.ofText mediaType)).runIn world =
      (.ok (), withTree world typed) ∧
    (needsWriting (names ++ [dataFile]) (Digest.ofBytes payload) payload).runIn
      (withTree world typed) = (.ok needed, { withTree world typed with output }) ∧
    typed.replaceFile (world.store.place (names ++ [dataFile])) payload = .ok last := by
  obtain ⟨typed, entries', wrote, here', kept⟩ :=
    writeOnce_of_directory here clean (Bytes.ofText mediaType)
  let next : World FileStore := withTree world typed
  have here' : find (next.store.place names) next.store.tree = .ok (.directory entries') := here'
  have regular' : ∀ inner, entries'.lookup dataFile ≠ some (.directory inner) := kept ▸ regular
  obtain ⟨needed, output, decided⟩ := needsWriting_of_directory here' clean regular' payload
  obtain ⟨last, written⟩ := replaceFile_of_directory here' clean regular' payload
  exact ⟨typed, needed, output, last, wrote, decided, written⟩

end Directory

/-- A put that gets past its token succeeds when the directory of its blob can be made and holds no
directory in the place of the data. -/
theorem putBlob_of_live {looks : Nat} (live : (ensureLive token).runIn world = (.ok (), { world with looks }))
    (mediaType : String) (named : blobNames (Digest.ofBytes payload) = .ok names)
    (directory : world.store.tree.createDirectories (world.store.place names) = .ok made)
    (regular : ∀ inner, world.store.found (names ++ [dataFile]) ≠ some (.directory inner)) :
    ∃ descriptor, ((putBlob token mediaType payload).runIn world).1 = .ok descriptor := by
  obtain ⟨clean, directories⟩ := createDirectories_eq_ok directory
  obtain ⟨entries, here⟩ := find_makeDirectories directories
  have data_eq : entries.lookup dataFile = world.store.found (names ++ [dataFile]) := by
    rw [← found_snoc here (fitsName_of_blobFile (.inr rfl)), ← place_snoc]
    apply found_makeDirectories directories
    rw [place_snoc]
    exact file_not_above _ _
  let start : World FileStore := withTree { world with looks } made
  have making : (makeDirectory names).runIn { world with looks } = (.ok (), start) :=
    runIn_makeDirectory_of_ok directory
  have here : find (start.store.place names) start.store.tree = .ok (.directory entries) := here
  obtain ⟨typed, needed, output, last, wrote, decided, written⟩ :=
    files_of_directory here clean (data_eq ▸ regular) mediaType payload
  simp only [putBlob, runIn_bind, live, runIn_validated, named, mapError_ok, making, wrote, decided]
  cases needed with
  | false => exact ⟨_, rfl⟩
  | true =>
    have replaced : replaceFile ((withTree start typed).store.place (names ++ [dataFile])) payload
        (withTree start typed).store.tree = .ok last := written
    simp only [if_true, runIn_bind, runIn_change, replaced, runIn_orFail, mapError_ok]
    exact ⟨_, rfl⟩

/-- With nothing in the way, such a put succeeds whatever else is there. -/
theorem putBlob_succeeds (calm : world.interference = .none) (token : Token) (mediaType : String)
    (named : blobNames (Digest.ofBytes payload) = .ok names)
    (directory : world.store.tree.createDirectories (world.store.place names) = .ok made)
    (regular : ∀ inner, world.store.found (names ++ [dataFile]) ≠ some (.directory inner)) :
    ∃ descriptor, ((Store.putBlob token mediaType payload).runIn world).1 = .ok descriptor := by
  obtain ⟨looks, live⟩ := runIn_ensureLive_of_calm calm token
  rw [Store.putBlob, runIn_call_of_calm calm]
  exact putBlob_of_live live mediaType named directory regular

/-- Whatever the files hold, a put that succeeds leaves the payload to be read under its digest. Data
that were intact are still there as they were, and the files of all other blobs are unchanged: the same
contents are found at the same places, which is all that a tree of files tells. -/
theorem putBlob_repairs {descriptor : Descriptor} (collisionFree : CollisionFree world.store payload)
    (ran : (Store.putBlob token mediaType payload).runIn world = (.ok descriptor, ended)) :
    descriptor.digest = Digest.ofBytes payload ∧
    HasBlob ended.store descriptor.digest payload ∧
    (∀ names contents, blobNames descriptor.digest = .ok names →
      world.store.read (names ++ [dataFile]) = .ok contents →
      descriptor.digest.verifies contents = .ok true →
      ended.store.found (names ++ [dataFile]) = world.store.found (names ++ [dataFile])) ∧
    ∀ other names file, other ≠ descriptor.digest → blobNames other = .ok names →
      file = dataFile ∨ file = mediaTypeFile →
      ended.store.found (names ++ [file]) = world.store.found (names ++ [file]) := by
  obtain ⟨error, failed, -⟩ | ⟨returned, done, returned_eq⟩ := call_ran ran
  · cases failed
  obtain ⟨rfl, names, made, typed, last, named, steps, store_eq⟩ := putBlob_ok done
  rw [returned_eq]
  refine ⟨rfl, hasBlob_of_putBlob collisionFree done, ?_, ?_⟩
  · intro names' contents named' before verified
    cases named.symm.trans named'
    obtain rfl := eq_of_verifies collisionFree named before verified
    have intact : world.store.Intact (names ++ [dataFile]) contents := ⟨contents, before, rfl, verified⟩
    have there := (read_eq_ok_iff.mp (steps.typed_read_iff.mpr before)).2
    rw [store_eq, steps.last_eq_of_intact intact, there, (read_eq_ok_iff.mp before).2]
  · intro other others file differs named' _
    obtain ⟨above, below⟩ := apart_of_blobNames named named' differs file
    rw [store_eq]
    exact steps.sameOutside.found_eq above below

/-- A store in which the data of a blob have been cut off. -/
def tornStore (payload : Bytes) : FileStore :=
  ⟨"", .directory [("blobs", .directory [(Algorithm.sha256.name, .directory
    [((Digest.ofBytes payload).hex, .directory [(dataFile, .file [])])])])]⟩

theorem collisionFree_tornStore (differs : Digest.ofBytes [] ≠ Digest.ofBytes payload) :
    CollisionFree (tornStore payload) payload := by
  intro contents has same
  obtain ⟨names, named, data, -⟩ := loaded_eq_ok_iff.mp (hasBlob_iff_loaded.mp has)
  cases (blobNames_ofBytes payload).symm.trans named
  have there := (read_eq_ok_iff.mp data).2
  have entry : (tornStore payload).found (["blobs", Algorithm.sha256.name,
      (Digest.ofBytes payload).hex] ++ [dataFile]) = some (.file []) := by
    have bare : FileTree.Path.ofText "" = [] := by decide
    have fitsBlobs : FitsName "blobs" := Nat.le_of_ble_eq_true rfl
    have fitsHex := fits_hex (Digest.validate_ofBytes payload)
    have fitsData : FitsName dataFile := fitsName_of_blobFile (.inr rfl)
    rw [found, place, tornStore, bare]
    simp only [List.nil_append, List.cons_append, found_cons_directory fitsBlobs,
      found_cons_directory (fits_name _), found_cons_directory fitsHex,
      found_cons_directory fitsData, List.lookup_cons_self, Option.bind_some]
    rfl
  cases entry.symm.trans there
  exact absurd same differs

/-- A put of the blob whose data are cut off. -/
theorem putBlob_repairs_torn : ∃ names descriptor ended,
    blobNames (Digest.ofBytes [0]) = .ok names ∧
    (tornStore [0]).read (names ++ [dataFile]) = .ok [] ∧
    CollisionFree (tornStore [0]) [0] ∧
    (Store.putBlob .callers "" [0]).runIn { store := tornStore [0] } = (.ok descriptor, ended) ∧
    HasBlob ended.store descriptor.digest [0] := by
  have torn : (tornStore [0]).read (["blobs", Algorithm.sha256.name, (Digest.ofBytes [0]).hex] ++
      [dataFile]) = .ok [] := by decide +kernel
  have collisionFree : CollisionFree (tornStore [0]) [0] :=
    collisionFree_tornStore (by decide +kernel)
  have succeeds : ((Store.putBlob .callers "" [0]).runIn { store := tornStore [0] }).1.isOk =
      true := by decide +kernel
  obtain ⟨descriptor, ended, ran⟩ := exists_ended_of_isOk succeeds
  obtain ⟨-, has, -, -⟩ := putBlob_repairs collisionFree ran
  exact ⟨_, descriptor, ended, blobNames_ofBytes [0], torn, collisionFree, ran, has⟩

end FileStore

end ArtifactRegistry
