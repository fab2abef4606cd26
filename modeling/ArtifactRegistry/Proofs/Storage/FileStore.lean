import ArtifactRegistry.Proofs.Storage.Blobs
import ArtifactRegistry.Proofs.Storage.FileTree
import ArtifactRegistry.Proofs.Storage.LinkPath

/-! # Blobs in files

Every valid digest has a directory of its own, and links are elsewhere, so an operation on one blob
leaves all others alone. `Slot` says what can be in the directory of a blob: nothing, or the media
type and the payload together. Every operation keeps it that way, whether it fails or not, which makes
files a `BlobBackend`.
-/

namespace ArtifactRegistry

namespace FileStore

open ArtifactRegistry.Action FileTree

variable {store before after : FileStore} {digest : Digest} {names : FileTree.Path}

/-! ## The directories of blobs -/

theorem blobNames_eq_ok_iff : blobNames digest = .ok names ↔
    ∃ algorithm, digest.validate = .ok algorithm ∧
      names = ["blobs", algorithm.name, digest.hex] := by
  rw [blobNames, map_eq_ok_iff]
  exact exists_congr fun algorithm => and_congr_right fun _ => eq_comm

theorem blobNames_ofBytes (payload : Bytes) : blobNames (Digest.ofBytes payload) =
    .ok ["blobs", Algorithm.sha256.name, (Digest.ofBytes payload).hex] :=
  blobNames_eq_ok_iff.mpr ⟨_, Digest.validate_ofBytes payload, rfl⟩

/-- No two digests share a directory. -/
theorem blobNames_injective {other : Digest} (named : blobNames digest = .ok names)
    (named' : blobNames other = .ok names) : digest = other := by
  obtain ⟨algorithm, validates, rfl⟩ := blobNames_eq_ok_iff.mp named
  obtain ⟨algorithm', validates', same⟩ := blobNames_eq_ok_iff.mp named'
  simp only [List.cons.injEq, and_true, true_and] at same
  exact Digest.eq_of_parts validates validates' same.1 same.2

theorem place_snoc (store : FileStore) (names : FileTree.Path) (file : String) :
    store.place (names ++ [file]) = store.place names ++ [file] :=
  (List.append_assoc _ _ _).symm

/-- What is at a place below the store's directory, if anything. -/
def found (store : FileStore) (names : FileTree.Path) : Option FileTree :=
  FileTree.found (store.place names) store.tree

/-- The contents of a file below the store's directory. -/
def read (store : FileStore) (names : FileTree.Path) : Except MediumError Bytes :=
  store.tree.read (store.place names)

/-- The blob in the directory of a digest. -/
def blob? (store : FileStore) (digest : Digest) : Option StoredBlob :=
  match blobNames digest with
  | .error _ => none
  | .ok names =>
    (textOf (store.read (names ++ [mediaTypeFile]))).toOption.bind fun mediaType =>
      (store.read (names ++ [dataFile])).toOption.map fun bytes => ⟨mediaType, bytes⟩

/-- What can be in the directory of a blob: a payload never lacks its media type. -/
inductive Slot (store : FileStore) (digest : Digest) (names : FileTree.Path) :
    Option StoredBlob → Prop
  | vacant (noMediaType : store.found (names ++ [mediaTypeFile]) = none)
      (noData : store.found (names ++ [dataFile]) = none) : Slot store digest names none
  | taken (blob : StoredBlob)
      (mediaType : store.read (names ++ [mediaTypeFile]) = .ok (Bytes.ofText blob.mediaType))
      (data : store.read (names ++ [dataFile]) = .ok blob.bytes)
      (intact : digest.verifies blob.bytes = .ok true) : Slot store digest names (some blob)

/-- The directories of all blobs are in order. -/
def Sound (store : FileStore) : Prop :=
  ∀ digest names, blobNames digest = .ok names → store.Slot digest names (store.blob? digest)

theorem read_eq_ok_iff {contents : Bytes} : store.read names = .ok contents ↔
    checkNames (store.place names) = .ok () ∧ store.found names = some (.file contents) :=
  FileTree.read_eq_ok_iff

theorem blob?_of_invalid {error : DigestError} (invalid : blobNames digest = .error error) :
    store.blob? digest = none := by
  rw [blob?, invalid]

@[simp] theorem textOf_ofText (text : String) : textOf (.ok (Bytes.ofText text)) = .ok text := by
  simp only [textOf, bind, Except.bind, Bytes.toText?_ofText]
  rfl

theorem Slot.blob?_eq {blob : Option StoredBlob} (named : blobNames digest = .ok names)
    (slot : store.Slot digest names blob) : store.blob? digest = blob := by
  simp only [blob?, named]
  cases slot with
  | vacant noMediaType noData =>
    cases ran : store.read (names ++ [dataFile]) with
    | error error => exact Option.bind_fun_none _
    | ok contents =>
      rw [(read_eq_ok_iff.mp ran).2] at noData
      cases noData
  | taken blob mediaType data intact =>
    rw [mediaType, data, textOf_ofText]
    rfl

/-- When every directory is in order, the directories say what the blobs are. -/
theorem sound_of_slots {blobs : Blobs}
    (slots : ∀ digest names, blobNames digest = .ok names → store.Slot digest names (blobs digest))
    (invalid : ∀ digest reason, blobNames digest = .error reason → blobs digest = none) :
    store.Sound ∧ store.blob? = blobs := by
  constructor
  · intro digest names named
    rw [(slots digest names named).blob?_eq named]
    exact slots digest names named
  · funext digest
    cases named : blobNames digest with
    | ok names => exact (slots digest names named).blob?_eq named
    | error reason => rw [blob?_of_invalid named, invalid digest reason named]

/-! ## What stays the same -/

/-- Two stores differ at most below some names. -/
def SameOutside (names : FileTree.Path) (before after : FileStore) : Prop :=
  after.root = before.root ∧ FileTree.SameOutside (before.place names) before.tree after.tree

protected theorem SameOutside.refl : SameOutside names store store := ⟨rfl, .refl⟩

protected theorem SameOutside.trans {middle : FileStore} (first : SameOutside names before middle)
    (second : SameOutside names middle after) : SameOutside names before after := by
  obtain ⟨root_eq, tree⟩ := first
  obtain ⟨root_eq', tree'⟩ := second
  rw [place, root_eq, ← place] at tree'
  exact ⟨root_eq'.trans root_eq, tree.trans tree'⟩

theorem SameOutside.of_append {rest : FileTree.Path}
    (same : SameOutside (names ++ rest) before after) : SameOutside names before after := by
  obtain ⟨root_eq, tree⟩ := same
  rw [place, ← List.append_assoc] at tree
  exact ⟨root_eq, tree.of_append⟩

/-- A write to a file changes nothing outside the directory of the file. -/
theorem SameOutside.of_file {file : String} {tree : FileTree}
    (same : FileTree.SameOutside (store.place (names ++ [file])) store.tree tree) :
    SameOutside names store { store with tree } := by
  rw [place_snoc] at same
  exact ⟨rfl, same.of_append⟩

theorem SameOutside.found_eq {other : FileTree.Path} (same : SameOutside names before after)
    (above : ¬ other <+: names) (below : ¬ names <+: other) :
    after.found other = before.found other := by
  obtain ⟨root_eq, tree⟩ := same
  rw [found, place, root_eq]
  apply tree
  · intro within
    exact above ((List.prefix_append_right_inj _).mp within)
  · intro deeper
    exact below ((List.prefix_append_right_inj _).mp deeper)

theorem Slot.of_found_eq {blob : Option StoredBlob} (root_eq : after.root = before.root)
    (mediaType_eq : after.found (names ++ [mediaTypeFile]) = before.found (names ++ [mediaTypeFile]))
    (data_eq : after.found (names ++ [dataFile]) = before.found (names ++ [dataFile]))
    (slot : before.Slot digest names blob) : after.Slot digest names blob := by
  have place_eq (names : FileTree.Path) : after.place names = before.place names := by
    rw [place, place, root_eq]
  cases slot with
  | vacant noMediaType noData =>
    exact .vacant (mediaType_eq.trans noMediaType) (data_eq.trans noData)
  | taken blob mediaType data intact =>
    rw [read_eq_ok_iff] at mediaType data
    refine .taken blob ?_ ?_ intact
    · exact read_eq_ok_iff.mpr ⟨by rw [place_eq]; exact mediaType.1, mediaType_eq.trans mediaType.2⟩
    · exact read_eq_ok_iff.mpr ⟨by rw [place_eq]; exact data.1, data_eq.trans data.2⟩

/-- What happens apart from the directory of a blob leaves the blob alone. -/
theorem Slot.of_sameOutside {elsewhere : FileTree.Path} {blob : Option StoredBlob}
    (same : SameOutside elsewhere before after)
    (apart : ∀ file, ¬ names ++ [file] <+: elsewhere ∧ ¬ elsewhere <+: names ++ [file])
    (slot : before.Slot digest names blob) : after.Slot digest names blob :=
  slot.of_found_eq same.1 (same.found_eq (apart _).1 (apart _).2)
    (same.found_eq (apart _).1 (apart _).2)

/-- The directories of two blobs are apart. -/
theorem apart_of_blobNames {other : Digest} {others : FileTree.Path}
    (named : blobNames digest = .ok names) (named' : blobNames other = .ok others)
    (differs : other ≠ digest) (file : String) :
    ¬ others ++ [file] <+: names ∧ ¬ names <+: others ++ [file] := by
  obtain ⟨algorithm, -, rfl⟩ := blobNames_eq_ok_iff.mp named
  obtain ⟨algorithm', -, rfl⟩ := blobNames_eq_ok_iff.mp named'
  constructor
  · intro within
    have shorter := within.length_le
    simp only [List.length_append, List.length_cons, List.length_nil] at shorter
    omega
  · intro deeper
    simp only [List.cons_append, List.cons_prefix_cons] at deeper
    obtain ⟨-, algorithm_eq, hex_eq, -⟩ := deeper
    apply differs
    apply blobNames_injective named'
    rw [named, algorithm_eq, hex_eq]

/-- Links are apart from blobs. -/
theorem apart_of_links {rest : FileTree.Path} (named : blobNames digest = .ok names)
    (file : String) :
    ¬ names ++ [file] <+: "repositories" :: rest ∧ ¬ "repositories" :: rest <+: names ++ [file] := by
  obtain ⟨algorithm, -, rfl⟩ := blobNames_eq_ok_iff.mp named
  simp [List.cons_prefix_cons]

/-- A change in the directory of one blob leaves the others alone. -/
theorem Sound.of_blob {blob : Option StoredBlob} (sound : before.Sound)
    (named : blobNames digest = .ok names) (same : SameOutside names before after)
    (slot : after.Slot digest names blob) :
    after.Sound ∧
      after.blob? = fun other => if other = digest then blob else before.blob? other := by
  apply sound_of_slots
  · intro other others named'
    split
    · next is =>
      subst is
      cases named.symm.trans named'
      exact slot
    · next differs =>
      exact (sound other others named').of_sameOutside same
        (apart_of_blobNames named named' differs)
  · intro other reason named'
    rw [if_neg, blob?_of_invalid named']
    rintro rfl
    cases named.symm.trans named'

/-- A change among the links leaves all blobs alone. -/
theorem Sound.of_links {rest : FileTree.Path} (sound : before.Sound)
    (same : SameOutside ("repositories" :: rest) before after) :
    after.Sound ∧ after.blob? = before.blob? := by
  apply sound_of_slots
  · intro digest names named
    exact (sound digest names named).of_sameOutside same (apart_of_links named)
  · exact fun digest reason => blob?_of_invalid

/-! ## Running the operations -/

variable {world ended : World FileStore} {tree : FileTree}

/-- The same world with another tree. -/
def withTree (world : World FileStore) (tree : FileTree) : World FileStore :=
  { world with store := { world.store with tree } }

@[simp] theorem runIn_look {α : Type} (find : FileStore → Except MediumError α) :
    (look find).runIn world = (.ok (find world.store), world) := rfl

@[simp] theorem runIn_orFail {α : Type} (result : Except MediumError α) :
    (orFail result).runIn world = (result.mapError .medium, world) := by
  cases result <;> rfl

@[simp] theorem runIn_validated {α : Type} (result : Except DigestError α) :
    (validated result).runIn world = (result.mapError .invalidDigest, world) := by
  cases result <;> rfl

/-- A change is made, or refused and not made. -/
theorem runIn_change (edit : FileStore → Except MediumError FileTree) (world : World FileStore) :
    (change edit).runIn world =
      match edit world.store with
      | .ok tree => (.ok (.ok ()), withTree world tree)
      | .error error => (.ok (.error error), world) := by
  simp only [change, runIn_bind, runIn_look]
  cases edit world.store <;> rfl

theorem runIn_writeOnce (names : FileTree.Path) (contents : Bytes) (world : World FileStore) :
    (writeOnce names contents).runIn world =
      match world.store.tree.createFile (world.store.place names) contents with
      | .ok tree => (.ok (), withTree world tree)
      | .error .alreadyExists => (.ok (), world)
      | .error error => (.error (.medium error), world) := by
  simp only [writeOnce, runIn_bind, runIn_change]
  cases world.store.tree.createFile (world.store.place names) contents with
  | ok tree => rfl
  | error error => cases error <;> rfl

theorem writeOnce_ran {file : String} {contents : Bytes} {result : Except StorageError Unit}
    (ran : (writeOnce (names ++ [file]) contents).runIn world = (result, ended)) :
    SameOutside names world.store ended.store := by
  rw [runIn_writeOnce] at ran
  cases created : createFile (world.store.place (names ++ [file])) contents world.store.tree with
  | ok tree =>
    rw [created] at ran
    cases ran
    exact .of_file (sameOutside_createFile created)
  | error error =>
    have unchanged : ended = world := by
      rw [created] at ran
      cases error <;> cases ran <;> rfl
    rw [unchanged]
    exact .refl

theorem runIn_needsWriting_of_missing {payload : Bytes}
    (missing : world.store.tree.size (world.store.place names) = .error .notFound) :
    (needsWriting names digest payload).runIn world = (.ok true, world) := by
  simp only [needsWriting, runIn_bind, runIn_get, runIn_look, missing, runIn_pure]

/-- What has the length of the payload and the digest is left alone. -/
theorem runIn_needsWriting_of_intact {contents payload : Bytes}
    (there : world.store.read names = .ok contents) (length_eq : contents.length = payload.length)
    (intact : digest.verifies contents = .ok true) :
    (needsWriting names digest payload).runIn world = (.ok false, world) := by
  have size : world.store.tree.size (world.store.place names) = .ok payload.length :=
    length_eq ▸ size_of_read there
  rw [read] at there
  simp only [needsWriting, runIn_bind, runIn_get, runIn_look, size, if_true, there, runIn_orFail,
    mapError_ok, runIn_validated, intact, runIn_pure]

/-- What has another length than the payload is replaced, whatever its digest. -/
theorem runIn_needsWriting_of_length_ne {contents payload : Bytes}
    (there : world.store.read names = .ok contents) (differs : contents.length ≠ payload.length) :
    ∃ output, (needsWriting names digest payload).runIn world = (.ok true, { world with output }) := by
  have size : world.store.tree.size (world.store.place names) = .ok contents.length :=
    size_of_read there
  simp only [needsWriting, runIn_bind, runIn_get, runIn_look, size, if_neg differs, runIn_record,
    runIn_pure]
  exact ⟨_, rfl⟩

/-- At most directories on the way to a place are new. -/
def MakesWay (names : FileTree.Path) (before after : FileStore) : Prop :=
  after = before ∨ ∃ path tree, path <+: before.place names ∧
    before.tree.createDirectories path = .ok tree ∧ after = { before with tree }

theorem MakesWay.sameOutside (way : MakesWay names before after) :
    SameOutside names before after := by
  obtain rfl | ⟨path, tree, within, made, rfl⟩ := way
  · exact .refl
  · refine ⟨rfl, fun other above _ => ?_⟩
    exact found_makeDirectories (createDirectories_eq_ok made).2 fun inside =>
      above (inside.trans within)

/-- Making way for something else leaves a blob alone. -/
theorem Slot.of_makesWay {elsewhere : FileTree.Path} {blob : Option StoredBlob}
    (way : MakesWay elsewhere before after) (above : ∀ file, ¬ names ++ [file] <+: elsewhere)
    (slot : before.Slot digest names blob) : after.Slot digest names blob := by
  obtain rfl | ⟨path, tree, within, made, rfl⟩ := way
  · exact slot
  have same (file : String) : ({ before with tree } : FileStore).found (names ++ [file]) =
      before.found (names ++ [file]) := by
    apply found_makeDirectories (createDirectories_eq_ok made).2
    intro inside
    exact above file ((List.prefix_append_right_inj _).mp (inside.trans within))
  have root_eq : ({ before with tree } : FileStore).root = before.root := rfl
  exact slot.of_found_eq root_eq (same _) (same _)

/-- A directory is made, or the medium fails; either way at most directories on the way are new. -/
theorem makeDirectory_ran {result : Except StorageError Unit}
    (ran : (makeDirectory names).runIn world = (result, ended)) :
    MakesWay names world.store ended.store ∧
      ((∃ tree, world.store.tree.createDirectories (world.store.place names) = .ok tree ∧
          result = .ok () ∧ ended = withTree world tree) ∨
        ∃ error, result = .error (.medium error)) := by
  simp only [makeDirectory, runIn_bind, runIn_change] at ran
  cases made : world.store.tree.createDirectories (world.store.place names) with
  | ok tree =>
    rw [made] at ran
    cases ran
    exact ⟨.inr ⟨_, tree, List.prefix_rfl, made, rfl⟩, .inl ⟨tree, rfl, rfl, rfl⟩⟩
  | error error =>
    simp only [made] at ran
    cases error
    case nameTooLong =>
      simp only [runIn_bind, runIn_change, runIn_throw] at ran
      cases begun : world.store.tree.createDirectories (world.store.place names).fitting with
      | ok tree =>
        rw [begun] at ran
        cases ran
        exact ⟨.inr ⟨_, tree, List.takeWhile_prefix _, begun, rfl⟩, .inr ⟨_, rfl⟩⟩
      | error error =>
        rw [begun] at ran
        cases ran
        exact ⟨.inl rfl, .inr ⟨_, rfl⟩⟩
    all_goals
      cases ran
      exact ⟨.inl rfl, .inr ⟨_, rfl⟩⟩

/-- The names of the two files of a blob can be looked up. -/
theorem fitsName_of_blobFile {file : String} (known : file = mediaTypeFile ∨ file = dataFile) :
    FitsName file := by
  rcases known with rfl | rfl
  · exact Nat.le_of_ble_eq_true rfl
  · exact Nat.le_of_ble_eq_true rfl

theorem checkNames_blobFile {path : FileTree.Path} {file : String}
    (clean : checkNames path = .ok ()) (known : file = mediaTypeFile ∨ file = dataFile) :
    checkNames (path ++ [file]) = .ok () := by
  rcases known with rfl | rfl
  · exact checkNames_append.mpr ⟨clean, rfl⟩
  · exact checkNames_append.mpr ⟨clean, rfl⟩

section Directory

variable {entries : List (String × FileTree)}
  (here : find (store.place names) store.tree = .ok (.directory entries))
  (clean : checkNames (store.place names) = .ok ())

include here clean

/-- A directory with nothing of a blob takes the media type and then the payload. -/
theorem Slot.fill {payload : Bytes} (slot : store.Slot digest names none) (mediaType : String)
    (intact : digest.verifies payload = .ok true) :
    ∃ middle last,
      store.tree.createFile (store.place (names ++ [mediaTypeFile])) (Bytes.ofText mediaType) =
        .ok middle ∧
      middle.size (store.place (names ++ [dataFile])) = .error .notFound ∧
      middle.replaceFile (store.place (names ++ [dataFile])) payload = .ok last ∧
      ({ store with tree := last } : FileStore).Slot digest names (some ⟨mediaType, payload⟩) := by
  have fitsMediaType := fitsName_of_blobFile (.inl rfl)
  have fitsData := fitsName_of_blobFile (.inr rfl)
  have cleanMediaType := checkNames_blobFile clean (.inl rfl)
  have cleanData := checkNames_blobFile clean (.inr rfl)
  cases slot with
  | vacant noMediaType noData =>
  rw [found, place_snoc, found_snoc here fitsMediaType] at noMediaType
  rw [found, place_snoc, found_snoc here fitsData] at noData
  obtain ⟨middle, created, here'⟩ :=
    createFile_snoc_of_none here fitsMediaType cleanMediaType noMediaType (Bytes.ofText mediaType)
  have stillNoData : (SortedMap.insertEntry mediaTypeFile (.file (Bytes.ofText mediaType))
      entries).lookup dataFile = none := by
    rw [SortedMap.lookup_insertEntry, if_neg (by decide), noData]
  obtain ⟨last, written, here''⟩ :=
    replaceFile_snoc_of_none here' fitsData cleanData stillNoData payload
  refine ⟨middle, last, ?_, ?_, ?_, .taken _ ?_ ?_ intact⟩
  · rw [place_snoc, created]
  · rw [place_snoc, size_snoc_of_none here' fitsData cleanData stillNoData]
  · rw [place_snoc, written]
  · rw [read, place_snoc]
    apply read_snoc_of_some here'' fitsMediaType cleanMediaType
    rw [SortedMap.lookup_insertEntry, if_neg (by decide), SortedMap.lookup_insertEntry, if_pos rfl]
  · rw [read, place_snoc]
    apply read_snoc_of_some here'' fitsData cleanData
    rw [SortedMap.lookup_insertEntry, if_pos rfl]

/-- A directory with a blob refuses another media type. -/
theorem Slot.refuses {blob : StoredBlob} (slot : store.Slot digest names (some blob))
    (contents : Bytes) :
    store.tree.createFile (store.place (names ++ [mediaTypeFile])) contents =
      .error .alreadyExists := by
  cases slot with
  | taken blob mediaType data intact =>
  have there := (read_eq_ok_iff.mp mediaType).2
  rw [found, place_snoc, found_snoc here (fitsName_of_blobFile (.inl rfl))] at there
  rw [place_snoc]
  exact createFile_snoc_of_some here (fitsName_of_blobFile (.inl rfl))
    (checkNames_blobFile clean (.inl rfl)) there contents

/-- A directory with a blob takes another payload with the same digest. -/
theorem Slot.replace {blob : StoredBlob} {payload : Bytes}
    (slot : store.Slot digest names (some blob)) (intact : digest.verifies payload = .ok true) :
    ∃ last, store.tree.replaceFile (store.place (names ++ [dataFile])) payload = .ok last ∧
      ({ store with tree := last } : FileStore).Slot digest names
        (some { blob with bytes := payload }) := by
  have fitsMediaType := fitsName_of_blobFile (.inl rfl)
  have fitsData := fitsName_of_blobFile (.inr rfl)
  have cleanMediaType := checkNames_blobFile clean (.inl rfl)
  have cleanData := checkNames_blobFile clean (.inr rfl)
  cases slot with
  | taken blob mediaType data _ =>
  have typed := (read_eq_ok_iff.mp mediaType).2
  have old := (read_eq_ok_iff.mp data).2
  rw [found, place_snoc, found_snoc here fitsMediaType] at typed
  rw [found, place_snoc, found_snoc here fitsData] at old
  obtain ⟨last, written, here'⟩ := replaceFile_snoc_of_file here fitsData cleanData old payload
  refine ⟨last, by rw [place_snoc, written], .taken _ ?_ ?_ intact⟩
  · rw [read, place_snoc]
    apply read_snoc_of_some here' fitsMediaType cleanMediaType
    rw [SortedMap.lookup_insertEntry, if_neg (by decide), typed]
  · rw [read, place_snoc]
    apply read_snoc_of_some here' fitsData cleanData
    rw [SortedMap.lookup_insertEntry, if_pos rfl]

end Directory

/-- What a put finds when it has made the directory of a blob. -/
structure Ready (before store : FileStore) (digest : Digest) (names : FileTree.Path)
    (blob : Option StoredBlob) : Prop where
  clean : checkNames (store.place names) = .ok ()
  here : ∃ entries, find (store.place names) store.tree = .ok (.directory entries)
  slot : store.Slot digest names blob
  same : SameOutside names before store

/-- No file of a directory is on the way to the directory. -/
theorem file_not_above (names : FileTree.Path) (file : String) : ¬ names ++ [file] <+: names := by
  intro within
  have shorter := within.length_le
  rw [List.length_append, List.length_singleton] at shorter
  omega

theorem Slot.ready {blob : Option StoredBlob} (slot : store.Slot digest names blob)
    (made : store.tree.createDirectories (store.place names) = .ok tree) :
    Ready store { store with tree } digest names blob := by
  obtain ⟨clean, directories⟩ := createDirectories_eq_ok made
  have way : MakesWay names store { store with tree } :=
    .inr ⟨_, tree, List.prefix_rfl, made, rfl⟩
  exact ⟨clean, find_makeDirectories directories, slot.of_makesWay way (file_not_above names),
    way.sameOutside⟩

/-- With nothing of a blob in its directory, a put writes the media type and then the payload. -/
theorem Ready.fill {payload : Bytes} (ready : Ready store world.store digest names none)
    (mediaType : String) (intact : digest.verifies payload = .ok true) :
    ∃ middle last,
      (writeOnce (names ++ [mediaTypeFile]) (Bytes.ofText mediaType)).runIn world =
        (.ok (), withTree world middle) ∧
      (needsWriting (names ++ [dataFile]) digest payload).runIn (withTree world middle) =
        (.ok true, withTree world middle) ∧
      replaceFile ((withTree world middle).store.place (names ++ [dataFile])) payload
        (withTree world middle).store.tree = .ok last ∧
      (withTree world last).store.Slot digest names (some ⟨mediaType, payload⟩) ∧
      SameOutside names store (withTree world last).store := by
  obtain ⟨clean, ⟨entries, here⟩, slot, same⟩ := ready
  obtain ⟨middle, last, created, missing, written, filled⟩ := slot.fill here clean mediaType intact
  have first : SameOutside names world.store (withTree world middle).store :=
    .of_file (sameOutside_createFile created)
  have second : SameOutside names (withTree world middle).store (withTree world last).store :=
    .of_file (sameOutside_replaceFile written)
  refine ⟨middle, last, ?_, ?_, written, filled, (same.trans first).trans second⟩
  · rw [runIn_writeOnce, created]
  · exact runIn_needsWriting_of_missing missing

/-- With the blob in its directory, the media type stays as it is. -/
theorem Ready.keepMediaType {blob : StoredBlob}
    (ready : Ready store world.store digest names (some blob)) (mediaType : String) :
    (writeOnce (names ++ [mediaTypeFile]) (Bytes.ofText mediaType)).runIn world = (.ok (), world) := by
  obtain ⟨clean, ⟨entries, here⟩, slot, -⟩ := ready
  rw [runIn_writeOnce, slot.refuses here clean (Bytes.ofText mediaType)]

/-- With the blob in its directory, a payload of the same length is not written. -/
theorem Ready.keep {blob : StoredBlob} {payload : Bytes}
    (ready : Ready store world.store digest names (some blob))
    (length_eq : blob.bytes.length = payload.length) :
    (needsWriting (names ++ [dataFile]) digest payload).runIn world = (.ok false, world) := by
  cases ready.slot with
  | taken _ _ data intact => exact runIn_needsWriting_of_intact data length_eq intact

/-- With the blob in its directory, a payload of another length is written in its place. -/
theorem Ready.replace {blob : StoredBlob} {payload : Bytes}
    (ready : Ready store world.store digest names (some blob))
    (differs : blob.bytes.length ≠ payload.length) (intact : digest.verifies payload = .ok true) :
    ∃ output last,
      (needsWriting (names ++ [dataFile]) digest payload).runIn world =
        (.ok true, { world with output }) ∧
      replaceFile (world.store.place (names ++ [dataFile])) payload world.store.tree = .ok last ∧
      (withTree world last).store.Slot digest names (some { blob with bytes := payload }) ∧
      SameOutside names store (withTree world last).store := by
  obtain ⟨clean, ⟨entries, here⟩, slot, same⟩ := ready
  obtain ⟨last, written, replaced⟩ := slot.replace here clean intact
  cases slot with
  | taken _ _ data _ =>
  obtain ⟨output, needed⟩ := runIn_needsWriting_of_length_ne data differs
  exact ⟨output, last, needed, written, replaced,
    same.trans (.of_file (sameOutside_replaceFile written))⟩

/-- What a directory holds after a put. Only a payload of another length gives way. -/
def held (blob : Option StoredBlob) (mediaType : String) (payload : Bytes) : StoredBlob :=
  match blob with
  | none => ⟨mediaType, payload⟩
  | some blob => if blob.bytes.length = payload.length then blob else { blob with bytes := payload }

theorem held_of_genuine {blob : Option StoredBlob} {payload : Bytes}
    (genuine : ∀ there, blob = some there → there.bytes = payload) (mediaType : String) :
    held blob mediaType payload = blob.getD ⟨mediaType, payload⟩ := by
  cases blob with
  | none => rfl
  | some blob => exact if_pos (congrArg List.length (genuine blob rfl))

/-- A put of a blob fails and leaves the directory of the blob alone, or the directory holds the
payload afterwards; nothing else has changed. -/
theorem putBlob_ran {token : Token} {mediaType : String} {payload : Bytes}
    {result : Except StorageError Descriptor} (named : blobNames (Digest.ofBytes payload) = .ok names)
    {blob : Option StoredBlob} (slot : world.store.Slot (Digest.ofBytes payload) names blob)
    (ran : (putBlob token mediaType payload).runIn world = (result, ended)) :
    SameOutside names world.store ended.store ∧
      ((∃ error, result = .error error) ∧ ended.store.Slot (Digest.ofBytes payload) names blob ∨
        ∃ descriptor, result = .ok descriptor ∧ descriptor.digest = Digest.ofBytes payload ∧
          ended.store.Slot (Digest.ofBytes payload) names (some (held blob mediaType payload))) := by
  obtain ⟨fired, looks, looked⟩ := runIn_isCancelled (ε := StorageError) token world
  simp only [putBlob, ensureLive, runIn_bind, looked, runIn_validated, named, mapError_ok,
    runIn_change, runIn_ite, runIn_throw, runIn_pure] at ran
  cases fired with
  | true =>
    cases ran
    exact ⟨.refl, .inl ⟨⟨_, rfl⟩, slot⟩⟩
  | false =>
  simp only [Bool.false_eq_true, if_false] at ran
  generalize making : (makeDirectory names).runIn _ = outcome at ran
  obtain ⟨made, start⟩ := outcome
  obtain ⟨way, ⟨tree, made, rfl, rfl⟩ | ⟨error, rfl⟩⟩ := makeDirectory_ran making
  rotate_left
  · cases ran
    exact ⟨way.sameOutside, .inl ⟨⟨_, rfl⟩, slot.of_makesWay way (file_not_above names)⟩⟩
  simp only at ran
  generalize start_eq : withTree _ tree = start at ran
  have ready : Ready world.store start.store (Digest.ofBytes payload) names blob := by
    rw [← start_eq]
    exact slot.ready made
  cases blob with
  | none =>
    obtain ⟨middle, last, wrote, needed, written, filled, same⟩ :=
      ready.fill mediaType (Digest.verifies_ofBytes payload)
    simp only [wrote, needed, if_true, written, runIn_orFail, mapError_ok, runIn_record] at ran
    cases ran
    exact ⟨same, .inr ⟨_, rfl, rfl, filled⟩⟩
  | some blob =>
    have unchanged := ready.keepMediaType mediaType
    by_cases length_eq : blob.bytes.length = payload.length
    · simp only [unchanged, ready.keep length_eq, Bool.false_eq_true, if_false, runIn_record] at ran
      cases ran
      refine ⟨ready.same, .inr ⟨_, rfl, rfl, ?_⟩⟩
      rw [held, if_pos length_eq]
      exact ready.slot
    · obtain ⟨output, last, needed, written, replaced, same⟩ :=
        ready.replace length_eq (Digest.verifies_ofBytes payload)
      simp only [unchanged, needed, if_true, written, runIn_orFail, mapError_ok, runIn_record] at ran
      cases ran
      refine ⟨same, .inr ⟨_, rfl, rfl, ?_⟩⟩
      rw [held, if_neg length_eq]
      exact replaced

/-- A link changes nothing outside its set. -/
theorem addLink_ran {token : Token} {path : String} {result : Except StorageError Unit}
    (ran : (addLink token path digest).runIn world = (result, ended)) :
    SameOutside (FileTree.Path.ofText path) world.store ended.store := by
  obtain ⟨fired, looks, looked⟩ := runIn_isCancelled (ε := StorageError) token world
  simp only [addLink, ensureLive, runIn_bind, looked, runIn_validated, runIn_ite, runIn_throw,
    runIn_pure] at ran
  cases fired with
  | true =>
    cases ran
    exact .refl
  | false =>
  cases validates : digest.validate with
  | error reason =>
    simp only [validates] at ran
    cases ran
    exact .refl
  | ok algorithm =>
  simp only [Bool.false_eq_true, if_false, validates, mapError_ok] at ran
  generalize names_eq : FileTree.Path.ofText path ++ [algorithm.name, digest.hex] = names at ran
  suffices same : SameOutside names world.store ended.store by
    rw [← names_eq] at same
    exact same.of_append
  generalize making : (makeDirectory names).runIn _ = outcome at ran
  obtain ⟨made, start⟩ := outcome
  obtain ⟨way, ⟨tree, -, rfl, -⟩ | ⟨error, rfl⟩⟩ := makeDirectory_ran making
  · exact way.sameOutside.trans (writeOnce_ran ran)
  · cases ran
    exact way.sameOutside

/-! ## Looking only reads -/

theorem look_readOnly {α : Type} (find : FileStore → Except MediumError α) :
    ReadOnly (look find) :=
  fun _ => ⟨rfl, rfl⟩

theorem orFail_readOnly {α : Type} (result : Except MediumError α) : ReadOnly (orFail result) := by
  cases result with
  | ok value => exact .pure value
  | error error => exact .throw _

theorem validated_readOnly {α : Type} (result : Except DigestError α) :
    ReadOnly (validated result) := by
  cases result with
  | ok value => exact .pure value
  | error error => exact .throw _

theorem get_readOnly : ReadOnly (get : Action FileStore StorageError (World FileStore)) :=
  fun _ => ⟨rfl, rfl⟩

theorem statBlob_readOnly (token : Token) (digest : Digest) : ReadOnly (statBlob token digest) := by
  apply (ReadOnly.ensureLive token).bind
  intro live
  apply (validated_readOnly _).bind
  intro names
  apply (look_readOnly _).bind
  intro size
  split
  · exact .throw _
  · exact .throw _
  · apply (look_readOnly _).bind
    intro text
    split
    · exact (ReadOnly.pure _).bind fun mediaType => .pure _
    · exact (ReadOnly.pure _).bind fun mediaType => .pure _
    · exact (ReadOnly.throw _).bind fun mediaType => .pure _

theorem getBlob_readOnly (token : Token) (digest : Digest) : ReadOnly (getBlob token digest) := by
  apply (ReadOnly.ensureLive token).bind
  intro live
  apply (validated_readOnly _).bind
  intro names
  apply (look_readOnly _).bind
  intro contents
  split
  · exact .throw _
  · exact .throw _
  · apply (validated_readOnly _).bind
    intro intact
    cases intact with
    | true => exact .pure _
    | false => exact get_readOnly.bind fun _ => (ReadOnly.record _ _ _).bind fun _ => .throw _

theorem readLink_readOnly (path : String) (names : FileTree.Path) :
    ReadOnly (readLink path names) := by
  apply (look_readOnly _).bind
  intro text
  split
  · exact .pure _
  · exact .throw _
  · split
    · exact .pure _
    · exact get_readOnly.bind fun _ => (ReadOnly.record _ _ _).bind fun _ => .pure _

theorem listAlgorithm_readOnly (token : Token) (path name : String) :
    ReadOnly (listAlgorithm token path name) := by
  apply (ReadOnly.ensureLive token).bind
  intro live
  split
  · exact .pure _
  · apply (look_readOnly _).bind
    intro listed
    apply (orFail_readOnly _).bind
    intro links
    apply (ReadOnly.mapM (fun link => readLink_readOnly _ _) links).bind
    intro members
    exact .pure _

theorem listLinks_readOnly (token : Token) (path : String) : ReadOnly (listLinks token path) := by
  apply (ReadOnly.ensureLive token).bind
  intro live
  apply (look_readOnly _).bind
  intro names
  split
  · exact .throw _
  · exact .throw _
  · apply (ReadOnly.mapM (listAlgorithm_readOnly token path) _).bind
    intro members
    exact .pure _

instance : ReadingBackend FileStore := ⟨statBlob_readOnly, getBlob_readOnly, listLinks_readOnly⟩

/-! ## The backend -/

/-- A blob that is there has a directory with both files. -/
theorem Sound.taken {blob : StoredBlob} (sound : store.Sound) (there : store.blob? digest = some blob) :
    ∃ names, blobNames digest = .ok names ∧ store.Slot digest names (some blob) := by
  cases named : blobNames digest with
  | error reason =>
    rw [blob?_of_invalid named] at there
    cases there
  | ok names =>
    refine ⟨names, rfl, ?_⟩
    rw [← there]
    exact sound digest names named

section Live

variable (sound : world.store.Sound) {token : Token} {looks : Nat}
  (live : (ensureLive token).runIn world = (.ok (), { world with looks }))

include sound live

theorem statBlob_of_none (missing : world.store.blob? digest = none) :
    ∃ error, ((statBlob token digest).runIn world).1 = .error error := by
  cases named : blobNames digest with
  | error reason =>
    simp only [statBlob, runIn_bind, live, runIn_validated, named, mapError_error]
    exact ⟨_, rfl⟩
  | ok names =>
    have slot := sound digest names named
    rw [missing] at slot
    cases slot with
    | vacant noMediaType noData =>
    obtain ⟨error, size⟩ := size_of_found_none noData
    simp only [statBlob, runIn_bind, live, runIn_validated, named, mapError_ok, runIn_look, size]
    cases error <;> exact ⟨_, rfl⟩

theorem statBlob_of_some {blob : StoredBlob} (there : world.store.blob? digest = some blob) :
    ∃ descriptor, ((statBlob token digest).runIn world).1 = .ok descriptor ∧
      blob.ReportedAs descriptor := by
  obtain ⟨names, named, slot⟩ := sound.taken there
  cases slot with
  | taken _ mediaType data intact =>
  have size := size_of_read data
  have text : textOf (world.store.tree.read (world.store.place (names ++ [mediaTypeFile]))) =
      .ok blob.mediaType := by
    rw [← read, mediaType, textOf_ofText]
  simp only [statBlob, runIn_bind, live, runIn_validated, named, mapError_ok, runIn_look, size,
    text, runIn_pure]
  refine ⟨_, rfl, ?_⟩
  by_cases untyped : blob.mediaType = ""
  · exact .inr ⟨untyped, if_pos untyped⟩
  · exact .inl (if_neg untyped)

theorem getBlob_of_none (missing : world.store.blob? digest = none) :
    ∃ error, ((getBlob token digest).runIn world).1 = .error error := by
  cases named : blobNames digest with
  | error reason =>
    simp only [getBlob, runIn_bind, live, runIn_validated, named, mapError_error]
    exact ⟨_, rfl⟩
  | ok names =>
    have slot := sound digest names named
    rw [missing] at slot
    cases slot with
    | vacant noMediaType noData =>
    obtain ⟨error, failed⟩ := read_of_found_none noData
    simp only [getBlob, runIn_bind, live, runIn_validated, named, mapError_ok, runIn_look, failed]
    cases error <;> exact ⟨_, rfl⟩

theorem getBlob_of_some {blob : StoredBlob} (there : world.store.blob? digest = some blob) :
    ((getBlob token digest).runIn world).1 = .ok blob.bytes := by
  obtain ⟨names, named, slot⟩ := sound.taken there
  cases slot with
  | taken _ mediaType data intact =>
  rw [read] at data
  simp only [getBlob, runIn_bind, live, runIn_validated, named, mapError_ok, runIn_look, data,
    intact, if_true, runIn_pure]

end Live

/-- What is reported is there, whatever interferes. -/
theorem statBlob_reports {token : Token} {descriptor : Descriptor} (sound : world.store.Sound)
    (ran : ((statBlob token digest).runIn world).1 = .ok descriptor) :
    ∃ blob, world.store.blob? digest = some blob ∧ blob.ReportedAs descriptor := by
  obtain ⟨looks, live | fired⟩ := runIn_ensureLive token world
  · cases there : world.store.blob? digest with
    | none =>
      obtain ⟨error, failed⟩ := statBlob_of_none sound live there
      cases failed.symm.trans ran
    | some blob =>
      obtain ⟨_, reported, reportedAs⟩ := statBlob_of_some sound live there
      cases reported.symm.trans ran
      exact ⟨blob, rfl, reportedAs⟩
  · simp only [statBlob, runIn_bind, fired] at ran
    cases ran

instance : BlobBackend FileStore where
  Sound := Sound
  blobs := blob?
  putBlob_ran {token mediaType payload world after result} sound genuine ran := by
    have named := blobNames_ofBytes payload
    obtain ⟨error, failed, unchanged⟩ | ⟨returned, done, store_eq⟩ := call_ran ran
    · rw [unchanged]
      exact ⟨sound, .inl ⟨⟨error, failed⟩, rfl⟩⟩
    rw [store_eq]
    obtain ⟨same, ⟨failed, slot⟩ | ⟨descriptor, stored, digest_eq, slot⟩⟩ :=
      putBlob_ran named (sound _ _ named) done
    · obtain ⟨sound', blobs_eq⟩ := sound.of_blob named same slot
      refine ⟨sound', .inl ⟨failed, ?_⟩⟩
      rw [blobs_eq]
      funext other
      rw [ite_eq_right_iff]
      intro is
      rw [is]
    · rw [held_of_genuine genuine] at slot
      obtain ⟨sound', blobs_eq⟩ := sound.of_blob named same slot
      refine ⟨sound', .inr ⟨⟨descriptor, stored, digest_eq⟩, ?_⟩⟩
      rw [blobs_eq]
      funext other
      rw [Blobs.put]
      split
      · next is => rw [is]
      · rfl
  addLink_ran {token repository path subject digest world after result} sound derived ran := by
    obtain ⟨error, -, unchanged⟩ | ⟨returned, done, store_eq⟩ := call_ran ran
    · rw [unchanged]
      exact ⟨sound, rfl⟩
    · obtain ⟨algorithm, -, path_eq⟩ := ofText_referrersLinkPath derived
      rw [store_eq]
      exact sound.of_links (path_eq ▸ addLink_ran done)
  statBlob_of_none sound calm token missing := by
    obtain ⟨looks, live⟩ := runIn_ensureLive_of_calm calm token
    rw [Store.statBlob, runIn_call_of_calm calm]
    exact statBlob_of_none sound live missing
  statBlob_of_some sound calm token there := by
    obtain ⟨looks, live⟩ := runIn_ensureLive_of_calm calm token
    rw [Store.statBlob, runIn_call_of_calm calm]
    exact statBlob_of_some sound live there
  getBlob_of_none sound calm token missing := by
    obtain ⟨looks, live⟩ := runIn_ensureLive_of_calm calm token
    rw [Store.getBlob, runIn_call_of_calm calm]
    exact getBlob_of_none sound live missing
  getBlob_of_some sound calm token there := by
    obtain ⟨looks, live⟩ := runIn_ensureLive_of_calm calm token
    rw [Store.getBlob, runIn_call_of_calm calm]
    exact getBlob_of_some sound live there

/-- In the directory of a blob, the media type stays. -/
theorem held_retains (blob : StoredBlob) (mediaType : String) (payload : Bytes) :
    ∃ bytes, held (some blob) mediaType payload = { blob with bytes } := by
  rw [held]
  split
  · exact ⟨blob.bytes, rfl⟩
  · exact ⟨payload, rfl⟩

instance : SteadyBackend FileStore where
  statBlob_reports {world after digest token descriptor} sound ran := by
    obtain ⟨_, failed, -⟩ | ⟨returned, done, -⟩ := call_ran ran
    · cases failed
    · exact statBlob_reports sound (congrArg Prod.fst done)
  putBlob_retains {token mediaType payload world after result} sound ran := by
    obtain ⟨_, -, unchanged⟩ | ⟨returned, done, store_eq⟩ := call_ran ran
    · rw [unchanged]
      exact ⟨sound, .refl _⟩
    rw [store_eq]
    have named := blobNames_ofBytes payload
    obtain ⟨same, ⟨-, slot⟩ | ⟨_, -, -, slot⟩⟩ := putBlob_ran named (sound _ _ named) done
    · obtain ⟨sound', blobs_eq⟩ := sound.of_blob named same slot
      refine ⟨sound', ?_⟩
      change Blobs.Retains world.store.blob? returned.store.blob?
      rw [blobs_eq]
      exact Blobs.retains_of_one fun old there => ⟨old.bytes, there⟩
    · obtain ⟨sound', blobs_eq⟩ := sound.of_blob named same slot
      refine ⟨sound', ?_⟩
      change Blobs.Retains world.store.blob? returned.store.blob?
      rw [blobs_eq]
      apply Blobs.retains_of_one
      intro old there
      obtain ⟨bytes, kept⟩ := held_retains old mediaType payload
      exact ⟨bytes, by rw [there, kept]⟩

/-- Nothing is kept in a tree without entries. -/
theorem sound_empty (root : String) :
    (⟨root, .empty⟩ : FileStore).Sound ∧ (⟨root, .empty⟩ : FileStore).blob? = fun _ => none := by
  apply sound_of_slots
  · intro digest names named
    refine .vacant (found_empty ?_) (found_empty ?_)
    · simp [place]
    · simp [place]
  · exact fun _ _ _ => rfl

end FileStore

end ArtifactRegistry
