import ArtifactRegistry.Proofs.Storage.LinkPlaces

/-! # Repositories in files

What a repository can see of a file tree: its own link files, and what is on the way to them. Stores
with the same view, `AlikeIn`, list the same links, `linked_alike`, and take a link in the same way,
`addLink_respects`. A link in another repository leaves the view as it is, `addLink_elsewhere`.
-/

namespace ArtifactRegistry

namespace FileStore

open ArtifactRegistry.Action FileTree

/-- A repository sees the same in two stores. -/
structure AlikeIn (repository : String) (store store' : FileStore) : Prop where
  root_eq : store'.root = store.root
  regular : store.tree.Regular
  regular' : store'.tree.Regular
  alike : AlikeOn (linkPlaces store.root repository) store.tree store'.tree

/-- The names on the way to the links of a repository are not too long. -/
def Fitting (root repository : String) : Prop :=
  ∀ name ∈ FileTree.Path.ofText root ++ Text.splitAll '/' repository, FitsName name

variable {repository path name : String} {subject : Digest} {below : Algorithm}
  {store store' : FileStore} {names names' directory : FileTree.Path}

theorem place_eq_of_root_eq (root_eq : store'.root = store.root) (names : FileTree.Path) :
    store'.place names = store.place names := by
  rw [place, place, root_eq]

namespace AlikeIn

protected theorem refl (regular : store.tree.Regular) : AlikeIn repository store store :=
  ⟨rfl, regular, regular, .refl _ _⟩

protected theorem symm (alike : AlikeIn repository store store') : AlikeIn repository store' store :=
  ⟨alike.root_eq.symm, alike.regular', alike.regular, alike.root_eq ▸ alike.alike.symm⟩

end AlikeIn

theorem fits_name (algorithm : Algorithm) : FitsName algorithm.name := by
  cases algorithm <;> exact Nat.le_of_ble_eq_true rfl

theorem fits_hex {digest : Digest} {algorithm : Algorithm}
    (validates : digest.validate = .ok algorithm) : FitsName digest.hex := by
  rw [FitsName, Digest.utf8ByteSize_hex validates]
  cases algorithm <;> exact Nat.le_of_ble_eq_true rfl

theorem fits_linkFile : FitsName linkFile := Nat.le_of_ble_eq_true rfl

/-- The names on the way to a link are those of the repository, of algorithms, of the digests, and a
few that are fixed. -/
theorem LinkDirectory.forall_names {Holds : String → Prop} {member : Digest}
    (link : LinkDirectory repository directory member)
    (outer : ∀ name ∈ Text.splitAll '/' repository, Holds name)
    (fixed : ∀ name ∈ ["repositories", "_refs", "subjects"], Holds name)
    (algorithms : ∀ algorithm : Algorithm, Holds algorithm.name)
    (hexes : ∀ (digest : Digest) (algorithm : Algorithm), digest.validate = .ok algorithm →
      Holds digest.hex) : ∀ name ∈ directory, Holds name := by
  obtain ⟨subject, path, derived, named⟩ := link
  obtain ⟨algorithm, validates, path_eq⟩ := ofText_referrersLinkPath derived
  obtain ⟨algorithm', validates', rfl⟩ := linkNames_eq_ok_iff.mp named
  rw [path_eq, List.forall_mem_append, List.forall_mem_cons, List.forall_mem_append]
  simp only [List.forall_mem_cons, List.not_mem_nil, false_implies, implies_true, and_true] at fixed ⊢
  exact ⟨⟨fixed.1, outer, fixed.2.1, fixed.2.2, algorithms algorithm, hexes subject _ validates⟩,
    algorithms algorithm', hexes member _ validates'⟩

/-- The subject could be a member of its own set. -/
theorem exists_linkDirectory (derived : referrersLinkPath repository subject = .ok path) :
    ∃ directory, LinkDirectory repository directory subject ∧
      FileTree.Path.ofText path <+: directory := by
  obtain ⟨algorithm, validates, -⟩ := ofText_referrersLinkPath derived
  have named : linkNames path subject = .ok _ :=
    linkNames_eq_ok_iff.mpr ⟨algorithm, validates, rfl⟩
  exact ⟨_, ⟨subject, path, derived, named⟩, List.prefix_append _ _⟩

section Fits

variable {root : String} (fitting : Fitting root repository)

include fitting

/-- The names on the way to a link are not too long. -/
theorem Fitting.link {member : Digest} (link : LinkDirectory repository directory member) :
    ∀ name ∈ FileTree.Path.ofText root ++ directory, FitsName name := by
  obtain ⟨fitsRoot, fitsRepository⟩ := List.forall_mem_append.mp fitting
  refine List.forall_mem_append.mpr ⟨fitsRoot, link.forall_names fitsRepository ?_ fits_name ?_⟩
  · simp only [List.forall_mem_cons, List.not_mem_nil, false_implies, implies_true, and_true]
    exact ⟨Nat.le_of_ble_eq_true rfl, Nat.le_of_ble_eq_true rfl, Nat.le_of_ble_eq_true rfl⟩
  · exact fun digest algorithm => fits_hex

/-- The names on the way to a set are not too long. -/
theorem Fitting.set (derived : referrersLinkPath repository subject = .ok path) :
    ∀ name ∈ FileTree.Path.ofText root ++ FileTree.Path.ofText path, FitsName name := by
  obtain ⟨directory, link, within⟩ := exists_linkDirectory derived
  intro name inside
  exact fitting.link link name (((List.prefix_append_right_inj _).mpr within).subset inside)

end Fits

/-! ## Listings -/

theorem linksUnder_of_looked
    (looked : store.tree.subdirectories (store.place (FileTree.Path.ofText path ++ [below.name])) =
      .ok names) :
    store.linksUnder path below.name = (names.mapM fun link =>
      store.linkIn (FileTree.Path.ofText path ++ [below.name] ++ [link])).map List.flatten := by
  have known : ¬ (Algorithm.ofName? below.name).isNone := by simp
  rw [linksUnder, if_neg known, looked]
  simp only [mapError_ok, bind, Except.bind]
  cases names.mapM fun link => store.linkIn (FileTree.Path.ofText path ++ [below.name] ++ [link]) <;>
    rfl

theorem orEmpty_linksAt (looked :
      store.tree.subdirectories (store.place (FileTree.Path.ofText path)) = .ok names ∨
        names = [] ∧
          store.tree.subdirectories (store.place (FileTree.Path.ofText path)) = .error .notFound) :
    orEmpty (store.linksAt path) = orEmpty ((names.mapM (store.linksUnder path)).map List.flatten) := by
  obtain looked | ⟨rfl, looked⟩ := looked
  · rw [linksAt, looked]
  · rw [linksAt, looked]
    rfl

section Listing

variable (derived : referrersLinkPath repository subject = .ok path)
  (alike : AlikeIn repository store store')

include derived

/-- Where the link file of a member is looked for. -/
theorem mem_linkPlaces_of_derived (store : FileStore) (below : Algorithm) (name : String) :
    store.place (FileTree.Path.ofText path ++ [below.name] ++ [name] ++ [linkFile]) ∈
      linkPlaces store.root repository := by
  obtain ⟨algorithm, validates, path_eq⟩ := ofText_referrersLinkPath derived
  refine ⟨subject, algorithm, below, name, validates, ?_⟩
  rw [place, path_eq, linkTail]
  simp

include alike

/-- What a directory holds, a directory of the other store holds. -/
theorem linkIn_alike {entries : List (String × FileTree)}
    (here : store.found (FileTree.Path.ofText path ++ [below.name] ++ [name]) =
      some (.directory entries)) :
    store.linkIn (FileTree.Path.ofText path ++ [below.name] ++ [name]) = .ok [] ∨
      (∃ entries', store'.found (FileTree.Path.ofText path ++ [below.name] ++ [name]) =
        some (.directory entries')) ∧
      store'.linkIn (FileTree.Path.ofText path ++ [below.name] ++ [name]) =
        store.linkIn (FileTree.Path.ofText path ++ [below.name] ++ [name]) := by
  have watched := mem_linkPlaces_of_derived derived store below name
  generalize FileTree.Path.ofText path ++ [below.name] ++ [name] = names at here watched ⊢
  have clean : checkNames (store.place (names ++ [linkFile])) = .ok () := by
    rw [place_snoc]
    exact checkNames_append.mpr ⟨alike.regular.clean here, rfl⟩
  have place_eq := place_eq_of_root_eq alike.root_eq
  cases there : FileTree.found (store.place (names ++ [linkFile])) store.tree with
  | none =>
    left
    have vacant : entries.lookup linkFile = none := by
      rw [place_snoc, found_snoc (find_of_found here) fits_linkFile] at there
      exact there
    rw [place_snoc] at clean
    rw [linkIn, read, place_snoc, read_snoc_of_none (find_of_found here) fits_linkFile clean vacant]
    rfl
  | some new =>
    right
    -- The other store has a file with the same contents there, or a directory as well.
    obtain ⟨new', there', reads⟩ : ∃ new', FileTree.found (store.place (names ++ [linkFile]))
        store'.tree = some new' ∧ store'.read (names ++ [linkFile]) =
          store.read (names ++ [linkFile]) := by
      cases new with
      | file contents =>
        have there' := (alike.alike.file_iff watched List.prefix_rfl).mp there
        refine ⟨_, there', ?_⟩
        rw [read, read, place_eq, read_of_found clean there, read_of_found clean there']
      | directory inner =>
        obtain ⟨inner', there'⟩ := (alike.alike.directory_iff watched).mp ⟨inner, there⟩
        refine ⟨_, there', ?_⟩
        rw [read, read, place_eq, read_of_found clean there, read_of_found clean there']
    rw [place_snoc] at there'
    obtain ⟨entries', here'⟩ := directory_of_found_append there'
    refine ⟨⟨entries', ?_⟩, ?_⟩
    · rw [found, place_eq]
      exact found_of_find here'
    · rw [linkIn, linkIn, reads]

/-- The links below one name are the same. -/
theorem linkIn_alike_of_shows
    (shows : Shows (store.place (FileTree.Path.ofText path ++ [below.name])) store.tree names)
    (shows' : Shows (store.place (FileTree.Path.ofText path ++ [below.name])) store'.tree names') :
    (names.mapM fun link =>
        store.linkIn (FileTree.Path.ofText path ++ [below.name] ++ [link])).map List.flatten =
      (names'.mapM fun link =>
        store'.linkIn (FileTree.Path.ofText path ++ [below.name] ++ [link])).map List.flatten := by
  have place_eq := place_eq_of_root_eq alike.root_eq
  apply flatten_mapM_congr shows.ascending shows'.ascending
  · intro name member
    obtain ⟨entries, here⟩ := shows.mem_iff.mp member
    rw [← place_snoc] at here
    refine (linkIn_alike derived alike here).imp_right (And.imp_left ?_)
    rintro ⟨entries', here'⟩
    rw [found, place_eq, place_snoc] at here'
    exact shows'.mem_iff.mpr ⟨entries', here'⟩
  · intro name member
    obtain ⟨entries, here⟩ := shows'.mem_iff.mp member
    rw [← place_snoc, ← place_eq] at here
    refine (linkIn_alike derived alike.symm here).imp_right (And.imp_left ?_)
    rintro ⟨entries', here'⟩
    rw [found, place_snoc] at here'
    exact shows.mem_iff.mpr ⟨entries', here'⟩

variable (fitting : Fitting store.root repository)

include fitting

/-- What there is to list under a name, there is to list in the other store. -/
theorem linksUnder_alike
    (shows : Shows (store.place (FileTree.Path.ofText path)) store.tree names)
    (shows' : Shows (store.place (FileTree.Path.ofText path)) store'.tree names')
    (member : name ∈ names) :
    store.linksUnder path name = .ok [] ∨
      name ∈ names' ∧ store'.linksUnder path name = store.linksUnder path name := by
  cases known : Algorithm.ofName? name with
  | none =>
    left
    rw [linksUnder, known]
    rfl
  | some below =>
    obtain rfl : below.name = name := by simpa using List.find?_some known
    obtain ⟨entries, here⟩ := shows.mem_iff.mp member
    have place_eq := place_eq_of_root_eq alike.root_eq
    have watched := mem_linkPlaces_of_derived derived store below ""
    have onTheWay : store.place (FileTree.Path.ofText path) ++ [below.name] <+:
        store.place (FileTree.Path.ofText path ++ [below.name] ++ [""] ++ [linkFile]) := by
      rw [place_snoc, place_snoc, place_snoc, List.append_assoc, List.append_assoc]
      exact ⟨_, List.append_assoc _ _ _⟩
    have fits : ∀ name ∈ store.place (FileTree.Path.ofText path) ++ [below.name], FitsName name := by
      rw [List.forall_mem_append]
      exact ⟨fitting.set derived, List.forall_mem_singleton.mpr (fits_name below)⟩
    have clean : checkNames (store.place (FileTree.Path.ofText path) ++ [below.name]) = .ok () :=
      alike.regular.clean here
    have free : ¬ Blocked (store.place (FileTree.Path.ofText path) ++ [below.name]) store'.tree := by
      rw [← alike.alike.blocked_iff watched onTheWay]
      exact not_blocked_of_directory here
    obtain ⟨links, looked⟩ := subdirectories_of_find (find_of_found here) clean
    have inner : Shows _ _ links := shows_of_subdirectories alike.regular.ordered looked
    obtain ⟨links', inner', ending⟩ := subdirectories_of_free clean fits alike.regular'.ordered free
    rw [← place_snoc] at looked inner inner'
    have same := linkIn_alike_of_shows derived alike inner inner'
    rw [linksUnder_of_looked looked, same]
    obtain ⟨here', looked'⟩ | ⟨rfl, -⟩ := ending
    · right
      rw [← place_snoc, ← place_eq] at looked'
      exact ⟨shows'.mem_iff.mpr here', linksUnder_of_looked looked'⟩
    · left
      rfl

/-- The members of a set are the same. -/
theorem linksAt_alike : orEmpty (store.linksAt path) = orEmpty (store'.linksAt path) := by
  have place_eq := place_eq_of_root_eq alike.root_eq
  have watched := mem_linkPlaces_of_derived derived store .sha256 ""
  have onTheWay : store.place (FileTree.Path.ofText path) <+:
      store.place (FileTree.Path.ofText path ++ [Algorithm.sha256.name] ++ [""] ++ [linkFile]) := by
    rw [List.append_assoc, List.append_assoc, place, place, ← List.append_assoc]
    exact List.prefix_append _ _
  have fits := fitting.set derived
  by_cases clean : checkNames (store.place (FileTree.Path.ofText path)) = .ok ()
  · by_cases blocked : Blocked (store.place (FileTree.Path.ofText path)) store.tree
    · have blocked' := (alike.alike.blocked_iff watched onTheWay).mp blocked
      rw [linksAt, linksAt, place_eq, subdirectories_of_blocked clean fits blocked,
        subdirectories_of_blocked clean fits blocked']
    · have free' := mt (alike.alike.blocked_iff watched onTheWay).mpr blocked
      obtain ⟨names, shows, ending⟩ :=
        subdirectories_of_free clean fits alike.regular.ordered blocked
      obtain ⟨names', shows', ending'⟩ :=
        subdirectories_of_free clean fits alike.regular'.ordered free'
      have same : (names.mapM (store.linksUnder path)).map List.flatten =
          (names'.mapM (store'.linksUnder path)).map List.flatten := by
        apply flatten_mapM_congr shows.ascending shows'.ascending
        · intro name member
          exact linksUnder_alike derived alike fitting shows shows' member
        · intro name member
          rw [← place_eq] at shows shows'
          exact linksUnder_alike derived alike.symm (alike.root_eq ▸ fitting) shows' shows member
      rw [orEmpty_linksAt (ending.imp_left And.right),
        orEmpty_linksAt (place_eq _ ▸ ending'.imp_left And.right), same]
  · rw [linksAt, linksAt, place_eq, subdirectories_of_not_clean clean,
      subdirectories_of_not_clean clean]

end Listing

/-! ## Links of the repository -/

theorem runIn_makeDirectory_of_ok {world : World FileStore} {tree : FileTree}
    (made : world.store.tree.createDirectories (world.store.place names) = .ok tree) :
    (makeDirectory names).runIn world = (.ok (), withTree world tree) := by
  simp only [makeDirectory, runIn_bind, runIn_change, made]
  rfl

theorem runIn_makeDirectory_of_error {world : World FileStore} {error : MediumError}
    (refused : world.store.tree.createDirectories (world.store.place names) = .error error)
    (other : error ≠ .nameTooLong) :
    (makeDirectory names).runIn world = (.error (.medium error), world) := by
  simp only [makeDirectory, runIn_bind, runIn_change, refused]
  rfl

/-- Stores below one directory in which a repository sees the same. -/
def AlikeBelow (root repository : String) (store store' : FileStore) : Prop :=
  store.root = root ∧ AlikeIn repository store store'

section Link

variable {member : Digest} {tree tree' : FileTree} {contents : Bytes}
  (link : LinkDirectory repository directory member) (alike : AlikeIn repository store store')

include link alike

/-- Making the directory of a link changes nothing that the repository can see. -/
theorem AlikeIn.createDirectories
    (made : store.tree.createDirectories (store.place directory) = .ok tree)
    (made' : store'.tree.createDirectories (store'.place directory) = .ok tree') :
    AlikeIn repository { store with tree } { store' with tree := tree' } := by
  rw [place_eq_of_root_eq alike.root_eq] at made'
  have unseen : ∀ place ∈ linkPlaces store.root repository, ¬ place <+: store.place directory := by
    intro place watched inside
    have deep := length_of_mem_linkPlaces watched
    have shorter := inside.length_le
    rw [FileStore.place, List.length_append, link.length_eq] at shorter
    omega
  have same := alikeOn_makeDirectories (createDirectories_eq_ok made).2 unseen
  have same' := alikeOn_makeDirectories (createDirectories_eq_ok made').2 unseen
  exact ⟨alike.root_eq, alike.regular.createDirectories made, alike.regular'.createDirectories made',
    same.trans (alike.alike.trans same'.symm)⟩

/-- A link file that is written in both stores is seen in both. -/
theorem AlikeIn.createFile
    (created : store.tree.createFile (store.place (directory ++ [linkFile])) contents = .ok tree)
    (created' : store'.tree.createFile (store'.place (directory ++ [linkFile])) contents =
      .ok tree') :
    AlikeIn repository { store with tree } { store' with tree := tree' } := by
  rw [place_eq_of_root_eq alike.root_eq] at created'
  obtain ⟨change, writes, updated⟩ := createFile_eq_ok created
  obtain ⟨change', writes', updated'⟩ := createFile_eq_ok created'
  have watched : store.place (directory ++ [linkFile]) ∈ linkPlaces store.root repository := by
    rw [place_snoc]
    exact link.snoc_mem_linkPlaces
  refine ⟨alike.root_eq, alike.regular.createFile created, alike.regular'.createFile created',
    alike.alike.update writes writes' updated updated' ?_⟩
  intro place inside differs
  constructor
  · intro above
    exact differs (eq_of_prefix_of_mem_linkPlaces inside watched above)
  · intro below
    exact differs (eq_of_prefix_of_mem_linkPlaces watched inside below).symm

/-- The directory of a link is made in both stores, or refused alike. -/
theorem AlikeIn.createDirectories_same (fitting : Fitting store.root repository) :
    (∃ tree tree', store.tree.createDirectories (store.place directory) = .ok tree ∧
        store'.tree.createDirectories (store'.place directory) = .ok tree') ∨
      ∃ error, error ≠ .nameTooLong ∧
        store.tree.createDirectories (store.place directory) = .error error ∧
        store'.tree.createDirectories (store'.place directory) = .error error := by
  rw [place_eq_of_root_eq alike.root_eq, FileTree.createDirectories, FileTree.createDirectories]
  have watched : store.place directory ++ [linkFile] ∈ linkPlaces store.root repository :=
    link.snoc_mem_linkPlaces
  cases clean : checkNames (store.place directory) with
  | error error =>
    right
    refine ⟨error, ?_, rfl, rfl⟩
    rintro rfl
    rw [checkNames] at clean
    split at clean <;> cases clean
  | ok _ =>
    simp only [bind, Except.bind]
    exact alike.alike.makeDirectories_same watched (List.prefix_append _ _) (fitting.link link)

omit alike in
variable (contents) in
/-- In its directory, a link file is written to both stores or is there in both. -/
theorem writeOnce_respects {root : String} {world : World FileStore} {other : FileStore}
    {entries entries' : List (String × FileTree)} (root_eq : world.store.root = root)
    (alike : AlikeIn repository world.store other)
    (clean : checkNames (world.store.place directory) = .ok ())
    (here : find (world.store.place directory) world.store.tree = .ok (.directory entries))
    (here' : find (other.place directory) other.tree = .ok (.directory entries')) :
    ∃ other', (writeOnce (directory ++ [linkFile]) contents).runIn { world with store := other } =
        (((writeOnce (directory ++ [linkFile]) contents).runIn world).1,
          { ((writeOnce (directory ++ [linkFile]) contents).runIn world).2 with store := other' }) ∧
      AlikeBelow root repository
        ((writeOnce (directory ++ [linkFile]) contents).runIn world).2.store other' := by
  have place_eq := place_eq_of_root_eq alike.root_eq
  have watched : world.store.place directory ++ [linkFile] ∈
      linkPlaces world.store.root repository := link.snoc_mem_linkPlaces
  have clean : checkNames (world.store.place directory ++ [linkFile]) = .ok () :=
    checkNames_append.mpr ⟨clean, rfl⟩
  have none_iff : entries.lookup linkFile = none ↔ entries'.lookup linkFile = none := by
    rw [place_eq] at here'
    rw [← found_snoc here fits_linkFile, ← found_snoc here' fits_linkFile]
    exact alike.alike.none_iff watched
  rw [runIn_writeOnce, runIn_writeOnce]
  cases there : entries.lookup linkFile with
  | none =>
    obtain ⟨tree, created, -⟩ := createFile_snoc_of_none here fits_linkFile clean there contents
    rw [← place_eq] at clean
    obtain ⟨tree', created', -⟩ :=
      createFile_snoc_of_none here' fits_linkFile clean (none_iff.mp there) contents
    rw [← place_snoc] at created created'
    simp only [created, created']
    exact ⟨{ other with tree := tree' }, rfl, root_eq, alike.createFile link created created'⟩
  | some old =>
    obtain ⟨old', there'⟩ : ∃ old', entries'.lookup linkFile = some old' := by
      rw [← Option.ne_none_iff_exists', ne_eq, ← none_iff, there]
      exact Option.some_ne_none old
    have taken := createFile_snoc_of_some here fits_linkFile clean there contents
    rw [← place_eq] at clean
    have taken' := createFile_snoc_of_some here' fits_linkFile clean there' contents
    rw [← place_snoc] at taken taken'
    simp only [taken, taken']
    exact ⟨other, rfl, root_eq, alike⟩

omit alike in
/-- In stores in which the repository sees the same, a link is made in the same way. -/
theorem writeLink_respects {root : String} (fitting : Fitting root repository) (contents : Bytes) :
    Respects (AlikeBelow root repository) (do
      makeDirectory directory
      writeOnce (directory ++ [linkFile]) contents) := by
  rintro world other ⟨root_eq, alike⟩
  rcases alike.createDirectories_same link (root_eq ▸ fitting) with
    ⟨tree, tree', made, made'⟩ | ⟨error, notTooLong, refused, refused'⟩
  · have ran : (makeDirectory directory).runIn world = (.ok (), withTree world tree) :=
      runIn_makeDirectory_of_ok made
    have ran' : (makeDirectory directory).runIn { world with store := other } =
        (.ok (), { world with store := { other with tree := tree' } }) :=
      runIn_makeDirectory_of_ok made'
    obtain ⟨clean, directories⟩ := createDirectories_eq_ok made
    obtain ⟨entries, here⟩ := find_makeDirectories directories
    obtain ⟨entries', here'⟩ := find_makeDirectories (createDirectories_eq_ok made').2
    have made_alike : AlikeIn repository (withTree world tree).store { other with tree := tree' } :=
      alike.createDirectories link made made'
    have same_root : (withTree world tree).store.root = root := root_eq
    rw [runIn_bind_of_ok ran, runIn_bind_of_ok ran']
    have written := writeOnce_respects contents link same_root made_alike clean here here'
    exact written
  · have ran : (makeDirectory directory).runIn world = (.error (.medium error), world) :=
      runIn_makeDirectory_of_error refused notTooLong
    have ran' : (makeDirectory directory).runIn { world with store := other } =
        (.error (.medium error), { world with store := other }) :=
      runIn_makeDirectory_of_error refused' notTooLong
    rw [runIn_bind, runIn_bind, ran, ran']
    exact ⟨other, rfl, root_eq, alike⟩

end Link

/-- A link of the repository is made in the same way where the repository sees the same. -/
theorem addLink_respects {root : String} (fitting : Fitting root repository)
    (derived : referrersLinkPath repository subject = .ok path) (token : Token) (digest : Digest) :
    Respects (AlikeBelow root repository) (addLink token path digest) := by
  rw [addLink]
  refine (Respects.ensureLive token).bind fun _ => ?_
  cases validates : digest.validate with
  | error error => exact .throw (StorageError.invalidDigest error)
  | ok algorithm =>
    have link : LinkDirectory repository
        (FileTree.Path.ofText path ++ [algorithm.name, digest.hex]) digest :=
      ⟨subject, path, derived, linkNames_eq_ok_iff.mpr ⟨algorithm, validates, rfl⟩⟩
    simp only [validated, pure_bind]
    exact writeLink_respects link fitting (Bytes.ofText digest.text)

/-! ## Links of another repository -/

/-- Two repositories with names that are not in each other's way. -/
structure NamesApart (repository other : String) : Prop where
  differ : repository ≠ other
  notThrough : ¬ LeadsThrough repository other
  notInside : ¬ LeadsThrough other repository

section Elsewhere

variable {other : String} {member : Digest} {start : FileStore} {tree : FileTree}
  (apart : NamesApart repository other) (link : LinkDirectory other directory member)
  (alike : AlikeIn repository start store)

include apart link alike

/-- Directories on the way to a link of another repository are not seen. -/
theorem AlikeIn.makesWay (way : MakesWay directory store store') :
    AlikeIn repository start store' := by
  obtain rfl | ⟨path, tree, within, made, rfl⟩ := way
  · exact alike
  refine ⟨alike.root_eq, alike.regular, alike.regular'.createDirectories made, ?_⟩
  have unseen := alikeOn_makeDirectories (createDirectories_eq_ok made).2
    fun place (watched : place ∈ linkPlaces start.root repository) above => by
      rw [← alike.root_eq] at watched
      exact not_prefix_of_not_leadsThrough link watched apart.notThrough (above.trans within)
  exact alike.alike.trans unseen.symm

/-- A link file of another repository is not seen. -/
theorem AlikeIn.createFile_elsewhere {contents : Bytes}
    (created : store.tree.createFile (store.place (directory ++ [linkFile])) contents = .ok tree) :
    AlikeIn repository start { store with tree } := by
  obtain ⟨change, writes, updated⟩ := createFile_eq_ok created
  refine ⟨alike.root_eq, alike.regular, alike.regular'.createFile created, ?_⟩
  rw [place_snoc] at updated
  have unseen := alikeOn_update writes updated
    (fun place (watched : place ∈ linkPlaces store.root repository) =>
      not_prefix_file link watched apart.differ apart.notThrough)
    fun place watched => file_not_prefix link watched apart.differ apart.notInside
  rw [alike.root_eq] at unseen
  exact alike.alike.trans unseen.symm

end Elsewhere

/-- A link in another repository changes nothing that the repository can see. -/
theorem addLink_elsewhere {other : String} {start : FileStore} (apart : NamesApart repository other)
    (derived : referrersLinkPath other subject = .ok path) (token : Token) (digest : Digest) :
    Preserves (AlikeIn repository start) (addLink token path digest) := by
  apply addLink_preserves_of
  · intro names before after named alike way
    exact alike.makesWay apart ⟨subject, path, derived, named⟩ way
  · intro names store tree named alike created
    exact alike.createFile_elsewhere apart ⟨subject, path, derived, named⟩ created

/-- Without an obstacle, a link is written to its file once the directory is made. -/
theorem runIn_addLink_of_made {world : World FileStore} {path : String} {digest : Digest}
    {algorithm : Algorithm} {tree : FileTree} (calm : world.interference = .none) (token : Token)
    (validates : digest.validate = .ok algorithm)
    (made : world.store.tree.createDirectories (world.store.place
      (FileTree.Path.ofText path ++ [algorithm.name, digest.hex])) = .ok tree) :
    ∃ looks, (addLink token path digest).runIn world =
      (writeOnce (FileTree.Path.ofText path ++ [algorithm.name, digest.hex] ++ [linkFile])
        (Bytes.ofText digest.text)).runIn (withTree { world with looks } tree) := by
  obtain ⟨looks, looked⟩ := runIn_ensureLive_of_calm calm token
  have valid : (validated digest.validate).runIn { world with looks } =
      (.ok algorithm, { world with looks }) := by
    rw [runIn_validated, validates, mapError_ok]
  have directory : (makeDirectory (FileTree.Path.ofText path ++ [algorithm.name, digest.hex])).runIn
      { world with looks } = (.ok (), withTree { world with looks } tree) :=
    runIn_makeDirectory_of_ok made
  refine ⟨looks, ?_⟩
  rw [addLink, runIn_bind_of_ok looked, runIn_bind_of_ok valid]
  exact runIn_bind_of_ok directory _

/-- Links keep a tree regular, wherever they are made. -/
theorem addLink_regular (root path : String) (token : Token) (digest : Digest) :
    Preserves (fun store => store.root = root ∧ store.tree.Regular) (addLink token path digest) := by
  apply addLink_preserves_of
  · rintro names before after - ⟨rfl, regular⟩ (rfl | ⟨_, tree, -, made, rfl⟩)
    · exact ⟨rfl, regular⟩
    · exact ⟨rfl, regular.createDirectories made⟩
  · rintro names store tree - ⟨rfl, regular⟩ created
    exact ⟨rfl, regular.createFile created⟩

end FileStore

end ArtifactRegistry
