import ArtifactRegistry.Proofs.Storage.FileStore
import ArtifactRegistry.Proofs.Storage.Links

/-! # Links in files

A link is a file in a directory of its own, below the place of its set. `Tidy` says that all links are
links of one repository, and that the directories of the repository lead to links. Every operation
keeps it that way, so a listing meets no file that it cannot read and shows the members of a set, no
more and no less: files are a `LinkBackend`.
-/

namespace ArtifactRegistry

namespace FileStore

open ArtifactRegistry.Action FileTree

variable {store : FileStore} {tree : FileTree} {repository path : String} {member digest : Digest}
  {names directory : FileTree.Path}

/-! ## The directories of links -/

/-- The directory of a member in the set at a path. -/
def linkNames (path : String) (digest : Digest) : Except DigestError FileTree.Path :=
  digest.validate.map fun algorithm => FileTree.Path.ofText path ++ [algorithm.name, digest.hex]

theorem linkNames_eq_ok_iff : linkNames path digest = .ok names ↔
    ∃ algorithm, digest.validate = .ok algorithm ∧
      names = FileTree.Path.ofText path ++ [algorithm.name, digest.hex] := by
  rw [linkNames, map_eq_ok_iff]
  exact exists_congr fun algorithm => and_congr_right fun _ => eq_comm

/-- No two links share a directory. -/
theorem linkNames_injective {path' : String} (named : linkNames path digest = .ok names)
    (named' : linkNames path' member = .ok names) :
    FileTree.Path.ofText path = FileTree.Path.ofText path' ∧ digest = member := by
  obtain ⟨algorithm, validates, rfl⟩ := linkNames_eq_ok_iff.mp named
  obtain ⟨algorithm', validates', same⟩ := linkNames_eq_ok_iff.mp named'
  obtain ⟨set_eq, member_eq⟩ := List.append_inj' same rfl
  simp only [List.cons.injEq, and_true] at member_eq
  exact ⟨set_eq, Digest.eq_of_parts validates validates' member_eq.1 member_eq.2⟩

/-- The directory of a member in the set of some subject. -/
def LinkDirectory (repository : String) (directory : FileTree.Path) (member : Digest) : Prop :=
  ∃ subject path, referrersLinkPath repository subject = .ok path ∧
    linkNames path member = .ok directory

/-- The names on the way to a link, of which only the last four depend on the link. -/
theorem LinkDirectory.names_eq (link : LinkDirectory repository directory member) :
    ∃ subject hex algorithm, member.validate = .ok algorithm ∧
      directory = "repositories" :: (Text.splitAll '/' repository ++
        ["_refs", "subjects", subject, hex, algorithm.name, member.hex]) := by
  obtain ⟨subject, path, derived, named⟩ := link
  obtain ⟨algorithm, -, path_eq⟩ := ofText_referrersLinkPath derived
  obtain ⟨algorithm', validates, rfl⟩ := linkNames_eq_ok_iff.mp named
  refine ⟨algorithm.name, subject.hex, algorithm', validates, ?_⟩
  rw [path_eq]
  simp

/-- All links are equally deep. -/
theorem LinkDirectory.length_eq (link : LinkDirectory repository directory member) :
    directory.length = (Text.splitAll '/' repository).length + 7 := by
  obtain ⟨_, _, _, -, rfl⟩ := link.names_eq
  simp

/-- The directory of a link determines the link. -/
theorem LinkDirectory.unique (link : LinkDirectory repository directory member)
    (named : linkNames path digest = .ok directory) : digest = member := by
  obtain ⟨_, _, -, named'⟩ := link
  exact (linkNames_injective named named').2

/-! ## What is below the directory of repositories -/

/-- Links are links of one repository, and its directories lead to links. -/
structure Tidy (repository : String) (store : FileStore) : Prop where
  ordered : store.tree.Ordered
  link {directory : FileTree.Path} {contents : Bytes}
    (there : store.found (directory ++ [linkFile]) = some (.file contents)) :
    ∃ member, LinkDirectory repository directory member ∧ contents = Bytes.ofText member.text
  leads {names : FileTree.Path} {entries : List (String × FileTree)}
    (there : store.found ("repositories" :: names) = some (.directory entries)) :
    ∃ directory member, LinkDirectory repository directory member ∧
      "repositories" :: names <+: directory

/-- The members of the set at a path are those that have a file. -/
def links (store : FileStore) : Links := fun path => {member | ∃ names,
  linkNames path member = .ok names ∧
    store.read (names ++ [linkFile]) = .ok (Bytes.ofText member.text)}

/-- A directory that is as deep as a link is that of a link. -/
theorem Tidy.link_of_directory (tidy : store.Tidy repository)
    {entries : List (String × FileTree)}
    (there : store.found ("repositories" :: names) = some (.directory entries))
    (deep : (Text.splitAll '/' repository).length + 6 ≤ names.length) :
    ∃ member, LinkDirectory repository ("repositories" :: names) member := by
  obtain ⟨directory, member, link, within⟩ := tidy.leads there
  have size : directory.length ≤ ("repositories" :: names).length := by
    rw [link.length_eq, List.length_cons]
    omega
  rw [within.eq_of_length_le size]
  exact ⟨member, link⟩

/-- A link is no directory. -/
theorem Tidy.link_not_directory (tidy : store.Tidy repository)
    {entries : List (String × FileTree)} (link : LinkDirectory repository directory member) :
    store.found (directory ++ [linkFile]) ≠ some (.directory entries) := by
  intro there
  obtain ⟨_, _, _, -, rfl⟩ := link.names_eq
  obtain ⟨_, deeper⟩ := tidy.link_of_directory there (by simp)
  have same := deeper.length_eq.trans link.length_eq.symm
  simp at same

/-- Making directories that lead to links makes no link. -/
theorem Tidy.makesWay {after : FileStore} (tidy : store.Tidy repository)
    (way : MakesWay names store after)
    (leads : names.head? = some "repositories" → ∃ member, LinkDirectory repository names member) :
    after.Tidy repository ∧ after.links = store.links := by
  obtain rfl | ⟨made, tree, begun, ran, rfl⟩ := way
  · exact ⟨tidy, rfl⟩
  obtain ⟨-, directories⟩ := createDirectories_eq_ok ran
  refine ⟨⟨tidy.ordered.makeDirectories directories, ?_, ?_⟩, ?_⟩
  · intro directory contents there
    exact tidy.link ((found_file_makeDirectories directories).mp there)
  · intro below entries there
    rcases found_directory_makeDirectories directories there with onTheWay | ⟨entries', before⟩
    · obtain ⟨rest, rfl⟩ : "repositories" :: below <+: names :=
        (List.prefix_append_right_inj _).mp (onTheWay.trans begun)
      obtain ⟨member, link⟩ := leads rfl
      exact ⟨_, member, link, List.prefix_append _ rest⟩
    · exact tidy.leads before
  · funext path
    ext member
    refine exists_congr fun directory => and_congr_right fun _ => ?_
    rw [read_eq_ok_iff, read_eq_ok_iff]
    exact and_congr_right fun _ => found_file_makeDirectories directories

section Write

variable {change : Option FileTree → Except MediumError FileTree} {file : String} {contents : Bytes}
  (tidy : store.Tidy repository) (writes : Writes change contents)
  (ran : update change (store.place (names ++ [file])) store.tree = .ok tree)

include writes ran

omit tidy in
theorem read_write {other : FileTree.Path} {contents' : Bytes} :
    ({ store with tree } : FileStore).read other = .ok contents' ↔
      checkNames (store.place other) = .ok () ∧ if other = names ++ [file] then contents' = contents
        else store.found other = some (.file contents') := by
  have same_iff : store.place other = store.place (names ++ [file]) ↔ other = names ++ [file] :=
    List.append_right_inj _
  rw [read_eq_ok_iff, found, found_file_update writes ran]
  simp only [place] at same_iff ⊢
  simp only [same_iff]
  rfl

include tidy

/-- Writing a file makes no directory, and no link unless the file is a link. -/
theorem Tidy.write (link : file = linkFile → ∃ member, LinkDirectory repository names member ∧
      contents = Bytes.ofText member.text) : ({ store with tree } : FileStore).Tidy repository := by
  constructor
  · exact tidy.ordered.update writes ran
  · intro directory contents' there
    rw [found, found_file_update writes ran] at there
    split at there
    · next same =>
      obtain ⟨rfl, last⟩ := List.append_inj' ((List.append_right_inj _).mp same) rfl
      cases last
      rw [there]
      exact link rfl
    · exact tidy.link there
  · intro below entries there
    obtain ⟨entries', before⟩ := found_directory_update writes ran there
    exact tidy.leads before

/-- A file that is no link is no member of a set. -/
theorem Tidy.write_other (other : file ≠ linkFile) :
    ({ store with tree } : FileStore).Tidy repository ∧
      ({ store with tree } : FileStore).links = store.links := by
  refine ⟨tidy.write writes ran fun same => absurd same other, ?_⟩
  funext path
  ext member
  refine exists_congr fun directory => and_congr_right fun _ => ?_
  rw [read_write writes ran, read_eq_ok_iff, if_neg]
  intro same
  obtain ⟨-, last⟩ := List.append_inj' same rfl
  cases last
  exact other rfl

end Write

/-! ## Blobs are apart from links -/

section Preserves

variable {Holds : FileStore → Prop}

theorem change_preserves {edit : FileStore → Except MediumError FileTree}
    (keeps : ∀ store tree, Holds store → edit store = .ok tree → Holds { store with tree }) :
    Preserves Holds (change edit) := by
  intro world before
  rw [runIn_change]
  cases made : edit world.store with
  | ok tree => exact keeps world.store tree before made
  | error error => exact before

theorem makeDirectory_preserves
    (keeps : ∀ before after, Holds before → MakesWay names before after → Holds after) :
    Preserves Holds (makeDirectory names) := by
  intro world before
  rcases ran : (makeDirectory names).runIn world with ⟨result, after⟩
  exact keeps world.store after.store before (makeDirectory_ran ran).1

theorem writeOnce_preserves {contents : Bytes}
    (keeps : ∀ store tree, Holds store →
      store.tree.createFile (store.place names) contents = .ok tree → Holds { store with tree }) :
    Preserves Holds (writeOnce names contents) := by
  apply (change_preserves keeps).bind
  intro result
  split
  · exact (ReadOnly.pure _).preserves Holds
  · exact (ReadOnly.pure _).preserves Holds
  · exact (ReadOnly.throw _).preserves Holds

end Preserves

theorem needsWriting_readOnly (names : FileTree.Path) (digest : Digest) (payload : Bytes) :
    ReadOnly (needsWriting names digest payload) := by
  apply get_readOnly.bind
  intro world
  apply (look_readOnly _).bind
  intro size
  split
  · exact .pure _
  · exact .throw _
  · split
    · apply (look_readOnly _).bind
      intro contents
      apply (orFail_readOnly _).bind
      intro found
      apply (validated_readOnly _).bind
      intro intact
      cases intact with
      | true => exact .pure _
      | false => exact (ReadOnly.record _ _ _).bind fun _ => .pure _
    · exact (ReadOnly.record _ _ _).bind fun _ => .pure _

/-- A put keeps up what making the directory of its blob and writing the two files keeps up. -/
theorem putBlob_preserves_of {Holds : FileStore → Prop} (token : Token) (mediaType : String)
    (payload : Bytes)
    (makesWay : ∀ names before after, blobNames (Digest.ofBytes payload) = .ok names →
      Holds before → MakesWay names before after → Holds after)
    (writes : ∀ names file store change contents tree,
      blobNames (Digest.ofBytes payload) = .ok names → file = mediaTypeFile ∨ file = dataFile →
      Writes change contents → store.tree.update change (store.place (names ++ [file])) = .ok tree →
      Holds store → Holds { store with tree }) :
    Preserves Holds (putBlob token mediaType payload) := by
  have named := blobNames_ofBytes payload
  simp only [putBlob, named, validated, pure_bind]
  refine ((ReadOnly.ensureLive token).preserves _).bind fun live => ?_
  refine (makeDirectory_preserves fun before after => makesWay _ before after named).bind fun _ => ?_
  refine (writeOnce_preserves ?_).bind fun _ => ?_
  · intro store tree holds created
    obtain ⟨change, writing, updated⟩ := createFile_eq_ok created
    exact writes _ _ store change _ tree named (.inl rfl) writing updated holds
  refine ((needsWriting_readOnly _ _ _).preserves _).bind fun needed => ?_
  cases needed with
  | false => exact ((ReadOnly.record _ _ _).bind fun _ => .pure _).preserves _
  | true =>
    refine (change_preserves ?_).bind fun written => ?_
    · intro store tree holds replaced
      obtain ⟨change, writing, updated⟩ := replaceFile_eq_ok replaced
      exact writes _ _ store change _ tree named (.inr rfl) writing updated holds
    · refine ReadOnly.preserves ?_ _
      exact (orFail_readOnly written).bind fun _ => (ReadOnly.record _ _ _).bind fun _ => .pure _

/-- A link keeps up what making its directory and writing its file keeps up. -/
theorem addLink_preserves_of {Holds : FileStore → Prop} (token : Token) (path : String)
    (digest : Digest)
    (makesWay : ∀ names before after, linkNames path digest = .ok names →
      Holds before → MakesWay names before after → Holds after)
    (writes : ∀ names store tree, linkNames path digest = .ok names → Holds store →
      store.tree.createFile (store.place (names ++ [linkFile])) (Bytes.ofText digest.text) = .ok tree →
      Holds { store with tree }) :
    Preserves Holds (addLink token path digest) := by
  rw [addLink]
  refine ((ReadOnly.ensureLive token).preserves _).bind fun live => ?_
  cases validates : digest.validate with
  | error error => exact (ReadOnly.throw (StorageError.invalidDigest error)).preserves _
  | ok algorithm =>
    have named : linkNames path digest = .ok _ := linkNames_eq_ok_iff.mpr ⟨algorithm, validates, rfl⟩
    simp only [validated, pure_bind]
    refine (makeDirectory_preserves fun before after => makesWay _ before after named).bind
      fun made => ?_
    exact writeOnce_preserves fun store tree => writes _ store tree named

/-- A tidy store with certain links. -/
def TidyWith (repository : String) (set : Links) (store : FileStore) : Prop :=
  store.Tidy repository ∧ store.links = set

/-- Putting a blob makes no link and no directory that leads to one. -/
theorem putBlob_preserves (repository : String) (set : Links) (token : Token) (mediaType : String)
    (payload : Bytes) : Preserves (TidyWith repository set) (putBlob token mediaType payload) := by
  apply putBlob_preserves_of
  · rintro names before after named ⟨tidy, rfl⟩ way
    obtain ⟨_, -, rfl⟩ := blobNames_eq_ok_iff.mp named
    exact tidy.makesWay way fun elsewhere => absurd elsewhere (by simp)
  · rintro names file store change contents tree named known writing updated ⟨tidy, rfl⟩
    apply tidy.write_other writing updated
    rcases known with rfl | rfl
    · decide
    · decide

/-! ## Why operations fail -/

section Fails

theorem look_fails {α : Type} (find : FileStore → Except MediumError α) {Kind : StorageError → Prop} :
    FailsWith Kind (look find) :=
  FailsWith.get.bind fun _ => .pure _

theorem change_fails (edit : FileStore → Except MediumError FileTree) {Kind : StorageError → Prop} :
    FailsWith Kind (change edit) := by
  intro world error failed
  rw [runIn_change] at failed
  cases made : edit world.store with
  | ok tree =>
    rw [made] at failed
    cases failed
  | error reason =>
    rw [made] at failed
    cases failed

theorem orFail_fails {α : Type} (result : Except MediumError α) :
    FailsWith StorageError.OfMedium (orFail result) := by
  cases result with
  | ok value => exact .pure value
  | error source => exact .throw ⟨source, rfl⟩

theorem makeDirectory_fails (names : FileTree.Path) :
    FailsWith StorageError.OfMedium (makeDirectory names) := by
  intro world error failed
  obtain ⟨-, ⟨tree, -, succeeded, -⟩ | ⟨source, failed'⟩⟩ := makeDirectory_ran (Prod.ext failed rfl)
  · cases succeeded
  · cases failed'
    exact ⟨source, rfl⟩

theorem writeOnce_fails (names : FileTree.Path) (contents : Bytes) :
    FailsWith StorageError.OfMedium (writeOnce names contents) := by
  refine (change_fails _).bind fun written => ?_
  split
  · exact .pure _
  · exact .pure _
  · exact .throw ⟨_, rfl⟩

theorem needsWriting_fails (names : FileTree.Path) (valid : digest.IsValid) (payload : Bytes) :
    FailsWith StorageError.OfMedium (needsWriting names digest payload) := by
  obtain ⟨algorithm, validates⟩ := valid
  refine FailsWith.get.bind fun world => (look_fails _).bind fun size => ?_
  split
  · exact .pure _
  · exact .throw ⟨_, rfl⟩
  · split
    · refine (look_fails _).bind fun contents => (orFail_fails _).bind fun found => ?_
      rw [Digest.verifies, validates]
      refine (FailsWith.pure _).bind fun intact => ?_
      cases intact with
      | true => exact .pure _
      | false => exact (FailsWith.record _ _ _).bind fun _ => .pure _
    · exact (FailsWith.record _ _ _).bind fun _ => .pure _

variable {world ended : World FileStore} {error : StorageError}

/-- A put of a blob that fails has found its token fired, or the medium has failed. -/
theorem putBlob_stopped {token : Token} {mediaType : String} {payload : Bytes}
    (ran : (putBlob token mediaType payload).runIn world = (.error error, ended)) :
    error.OfMedium ∨ (ensureLive token).runIn world = (.error error, ended) := by
  simp only [putBlob, blobNames_ofBytes, validated, pure_bind] at ran
  rw [runIn_bind] at ran
  rcases lived : (ensureLive token).runIn world with ⟨_ | _, middle⟩
  · rw [lived] at ran
    cases ran
    exact .inr rfl
  · rw [lived] at ran
    refine .inl (FailsWith.bind (makeDirectory_fails _) ?_ middle error (congrArg Prod.fst ran))
    refine fun _ => (writeOnce_fails _ _).bind fun _ => ?_
    refine (needsWriting_fails _ (Digest.isValid_ofBytes payload) _).bind fun needed => ?_
    cases needed with
    | false => exact (FailsWith.record _ _ _).bind fun _ => .pure _
    | true =>
      exact (change_fails _).bind fun written => (orFail_fails written).bind fun _ =>
        (FailsWith.record _ _ _).bind fun _ => .pure _

/-- A put of a blob that fails has not begun, or the medium has failed. -/
theorem putBlob_refused {token : Token} {mediaType : String} {payload : Bytes}
    (ran : (putBlob token mediaType payload).runIn world = (.error error, ended)) :
    error.OfMedium ∨ ended.store = world.store :=
  (putBlob_stopped ran).imp_right (ReadOnly.ensureLive token).store_eq

/-- With nothing in the way, only the medium can stop a put of a blob. -/
theorem putBlob_of_calm {token : Token} {mediaType : String} {payload : Bytes}
    (calm : world.interference = .none)
    (ran : (Store.putBlob token mediaType payload).runIn world = (.error error, ended)) :
    error.OfMedium := by
  rw [Store.putBlob, runIn_call_of_calm calm] at ran
  have failed : ((putBlob token mediaType payload).runIn world).1 = .error error :=
    congrArg Prod.fst ran
  obtain ofMedium | fired := putBlob_stopped (Prod.ext failed rfl)
  · exact ofMedium
  · obtain ⟨looks, live⟩ := runIn_ensureLive_of_calm calm token
    cases live.symm.trans fired

/-- A blob is reported with the digest of its payload. -/
theorem putBlob_returns (token : Token) (mediaType : String) (payload : Bytes) :
    Returns (fun descriptor => descriptor.digest = Digest.ofBytes payload)
      (putBlob token mediaType payload) := by
  refine Returns.bind fun _ => Returns.bind fun _ => Returns.bind fun _ => Returns.bind fun _ =>
    Returns.bind fun needed => ?_
  cases needed with
  | false => exact Returns.bind fun _ => .pure rfl
  | true => exact Returns.bind fun _ => Returns.bind fun _ => Returns.bind fun _ => .pure rfl

/-- Only the medium can stop a link that is made with a token that nobody holds. -/
theorem addLink_fails (path : String) (valid : digest.IsValid) :
    FailsWith StorageError.OfMedium (addLink .fresh path digest) := by
  obtain ⟨algorithm, validates⟩ := valid
  simp only [addLink, validates, validated, pure_bind]
  exact (FailsWith.pure ()).bind fun _ => (makeDirectory_fails _).bind fun _ => writeOnce_fails _ _

end Fails

/-! ## Adding a link -/

/-- Sets are told apart by the names on the way to them. -/
theorem linkNames_congr {other : String}
    (same : FileTree.Path.ofText other = FileTree.Path.ofText path) :
    linkNames other digest = linkNames path digest := by
  rw [linkNames, linkNames, same]

/-- The same sets, and one more member in one of them. -/
def AddsLink (before : Links) (path : String) (digest : Digest) (after : Links) : Prop :=
  ∀ other member, member ∈ after other ↔ member ∈ before other ∨
    FileTree.Path.ofText other = FileTree.Path.ofText path ∧ member = digest

section AddLink

variable (tidy : store.Tidy repository) (link : LinkDirectory repository names digest)
  (named : linkNames path digest = .ok names)

include tidy link named

/-- A link file that is new makes a new member. -/
theorem Tidy.write_link
    (created : store.tree.createFile (store.place (names ++ [linkFile]))
      (Bytes.ofText digest.text) = .ok tree) :
    ({ store with tree } : FileStore).Tidy repository ∧
      AddsLink store.links path digest ({ store with tree } : FileStore).links := by
  obtain ⟨⟨⟩, clean, -⟩ := bind_eq_ok_iff.mp created
  obtain ⟨change, writes, updated⟩ := createFile_eq_ok created
  refine ⟨tidy.write writes updated fun _ => ⟨digest, link, rfl⟩, fun other member => ?_⟩
  constructor
  · rintro ⟨names', named', there⟩
    rw [read_write writes updated] at there
    obtain ⟨clean', there⟩ := there
    split at there
    · next same =>
      obtain ⟨rfl, -⟩ := List.append_inj' same rfl
      exact .inr (linkNames_injective named' named)
    · exact .inl ⟨names', named', read_eq_ok_iff.mpr ⟨clean', there⟩⟩
  · rintro (⟨names', named', there⟩ | ⟨same, rfl⟩)
    · obtain ⟨clean', there⟩ := read_eq_ok_iff.mp there
      refine ⟨names', named', (read_write writes updated).mpr ⟨clean', ?_⟩⟩
      split
      · next same =>
        obtain ⟨rfl, -⟩ := List.append_inj' same rfl
        rw [link.unique named']
      · exact there
    · refine ⟨names, (linkNames_congr same).trans named,
        (read_write writes updated).mpr ⟨clean, ?_⟩⟩
      rw [if_pos rfl]

/-- What is in the place of a link is the link. -/
theorem Tidy.link_there (clean : checkNames (store.place (names ++ [linkFile])) = .ok ())
    {old : FileTree} (there : store.found (names ++ [linkFile]) = some old) :
    AddsLink store.links path digest store.links := by
  intro other member
  refine ⟨.inl, ?_⟩
  rintro (before | ⟨same, rfl⟩)
  · exact before
  cases old with
  | directory entries => exact absurd there (tidy.link_not_directory link)
  | file contents =>
    obtain ⟨member', link', rfl⟩ := tidy.link there
    obtain rfl := link'.unique named
    exact ⟨names, (linkNames_congr same).trans named, read_eq_ok_iff.mpr ⟨clean, there⟩⟩

end AddLink

/-- In its directory, a link is made or there already. -/
theorem writeOnce_link {world ended : World FileStore} {result : Except StorageError Unit}
    (ran : (writeOnce (names ++ [linkFile]) (Bytes.ofText digest.text)).runIn world =
      (result, ended))
    (tidy : world.store.Tidy repository) (link : LinkDirectory repository names digest)
    (named : linkNames path digest = .ok names)
    (clean : checkNames (world.store.place names) = .ok ()) {entries : List (String × FileTree)}
    (here : find (world.store.place names) world.store.tree = .ok (.directory entries)) :
    result = .ok () ∧ ended.store.Tidy repository ∧
      AddsLink world.store.links path digest ended.store.links := by
  have fits : FitsName linkFile := Nat.le_of_ble_eq_true rfl
  have clean' : checkNames (world.store.place names ++ [linkFile]) = .ok () :=
    checkNames_append.mpr ⟨clean, rfl⟩
  rw [runIn_writeOnce] at ran
  cases there : entries.lookup linkFile with
  | none =>
    obtain ⟨tree, created, -⟩ :=
      createFile_snoc_of_none here fits clean' there (Bytes.ofText digest.text)
    rw [← place_snoc] at created
    rw [created] at ran
    cases ran
    exact ⟨rfl, tidy.write_link link named created⟩
  | some old =>
    have taken := createFile_snoc_of_some here fits clean' there (Bytes.ofText digest.text)
    rw [← place_snoc] at taken clean'
    rw [taken] at ran
    cases ran
    have found_eq : world.store.found (names ++ [linkFile]) = some old := by
      rw [found, place_snoc, found_snoc here fits, there]
    exact ⟨rfl, tidy, tidy.link_there link named clean' found_eq⟩

/-- Adding a link fails and does nothing, or the digest is a member of the set afterwards. -/
theorem addLink_links {token : Token} {subject : Digest} {result : Except StorageError Unit}
    {world ended : World FileStore} (tidy : world.store.Tidy repository)
    (derived : referrersLinkPath repository subject = .ok path) (valid : digest.IsValid)
    (ran : (addLink token path digest).runIn world = (result, ended)) :
    ended.store.Tidy repository ∧
      ((∃ error, result = .error error) ∧ ended.store.links = world.store.links ∨
        result = .ok () ∧ AddsLink world.store.links path digest ended.store.links) := by
  obtain ⟨algorithm, validates⟩ := valid
  have named : linkNames path digest = .ok _ := linkNames_eq_ok_iff.mpr ⟨algorithm, validates, rfl⟩
  have link : LinkDirectory repository _ digest := ⟨subject, path, derived, named⟩
  obtain ⟨fired, looks, looked⟩ := runIn_isCancelled (ε := StorageError) token world
  simp only [addLink, ensureLive, runIn_bind, looked, runIn_validated, validates, mapError_ok,
    runIn_ite, runIn_throw, runIn_pure] at ran
  cases fired with
  | true =>
    cases ran
    exact ⟨tidy, .inl ⟨⟨_, rfl⟩, rfl⟩⟩
  | false =>
  simp only [Bool.false_eq_true, if_false] at ran
  generalize FileTree.Path.ofText path ++ [algorithm.name, digest.hex] = names at named link ran
  generalize making : (makeDirectory names).runIn _ = outcome at ran
  obtain ⟨made, start⟩ := outcome
  obtain ⟨way, ending⟩ := makeDirectory_ran making
  obtain ⟨tidy', same⟩ := tidy.makesWay way fun _ => ⟨digest, link⟩
  obtain ⟨tree, made, rfl, rfl⟩ | ⟨error, rfl⟩ := ending
  · obtain ⟨clean, directories⟩ := createDirectories_eq_ok made
    obtain ⟨entries, here⟩ := find_makeDirectories directories
    obtain ⟨done, tidied, adds⟩ := writeOnce_link ran tidy' link named clean here
    refine ⟨tidied, .inr ⟨done, ?_⟩⟩
    rw [← same]
    exact adds
  · cases ran
    exact ⟨tidy', .inl ⟨⟨_, rfl⟩, same⟩⟩

/-! ## Listings -/

theorem look_answers {α : Type} (find : FileStore → Except MediumError α) :
    Answers store (look find) (.ok (find store)) := by
  rintro world rfl calm
  exact ⟨world, rfl, rfl, calm⟩

theorem orFail_answers {α : Type} (result : Except MediumError α) :
    Answers store (orFail result) (result.mapError .medium) := by
  intro world same calm
  exact ⟨world, runIn_orFail result, same, calm⟩

/-- The member that a link file holds, by what reading the file answers. -/
def memberOf : Except MediumError String → Except StorageError (List Digest)
  | .error .notFound => .ok []
  | .error error => .error (.medium error)
  | .ok text => .ok (Digest.parse (Text.trim text)).toOption.toList

/-- The member that a directory holds, if it holds one. -/
def linkIn (store : FileStore) (names : FileTree.Path) : Except StorageError (List Digest) :=
  memberOf (textOf (store.read (names ++ [linkFile])))

/-- The members below one name. -/
def linksUnder (store : FileStore) (path name : String) : Except StorageError (List Digest) :=
  if (Algorithm.ofName? name).isNone then .ok []
  else do
    let links ←
      (store.tree.subdirectories (store.place (FileTree.Path.ofText path ++ [name]))).mapError
        .medium
    let members ← links.mapM fun link => store.linkIn (FileTree.Path.ofText path ++ [name] ++ [link])
    return members.flatten

/-- The members of the set at a path. -/
def linksAt (store : FileStore) (path : String) : Except StorageError (List Digest) :=
  match store.tree.subdirectories (store.place (FileTree.Path.ofText path)) with
  | .error .notFound => .error (.pathNotFound path)
  | .error error => .error (.medium error)
  | .ok algorithms => (algorithms.mapM (store.linksUnder path)).map List.flatten

theorem readLink_answers (path : String) (names : FileTree.Path) :
    Answers store (readLink path names) (store.linkIn names) := by
  refine (look_answers _).bind_ok ?_
  rw [linkIn, read]
  cases textOf (store.tree.read (store.place (names ++ [linkFile]))) with
  | error error =>
    cases error
    case notFound => exact .pure []
    all_goals exact .throw _
  | ok text =>
    simp only [memberOf]
    cases Digest.parse (Text.trim text) with
    | ok digest => exact .pure [digest]
    | error error =>
      intro world same calm
      exact ⟨_, rfl, same, calm⟩

theorem listAlgorithm_answers (token : Token) (path name : String) :
    Answers store (listAlgorithm token path name) (store.linksUnder path name) := by
  refine (Answers.ensureLive token).bind_ok ?_
  rw [linksUnder]
  split
  · exact .pure []
  · refine (look_answers _).bind_ok ((orFail_answers _).bind fun links _ => ?_)
    refine (Answers.mapM (fun link => readLink_answers path _) links).bind fun members _ => ?_
    exact .pure members.flatten

theorem listLinks_answers (store : FileStore) (token : Token) (path : String) :
    Answers store (listLinks token path) (store.linksAt path) := by
  refine (Answers.ensureLive token).bind_ok ((look_answers _).bind_ok ?_)
  rw [linksAt]
  cases store.tree.subdirectories (store.place (FileTree.Path.ofText path)) with
  | error error =>
    cases error
    case notFound => exact .throw _
    all_goals exact .throw _
  | ok algorithms =>
    refine (Answers.mapM (listAlgorithm_answers token path) algorithms).bind fun members _ => ?_
    exact .pure members.flatten

/-- A set is listed under every text that leads to it. -/
theorem hasLink_of_ofText_eq {path path' : String} (has : HasLink store path digest)
    (same : FileTree.Path.ofText path' = FileTree.Path.ofText path) : HasLink store path' digest := by
  obtain ⟨members, answers, member⟩ := has .fresh
  have listed : store.linksAt path = .ok members :=
    (store.listLinks_answers .fresh path).call.unique answers
  have under : store.linksUnder path' = store.linksUnder path := by
    funext name
    rw [linksUnder, linksUnder, same]
  have listed' : store.linksAt path' = .ok members := by
    rw [linksAt] at listed ⊢
    rw [same, under]
    split at listed
    · cases listed
    · cases listed
    · exact listed
  intro token
  have answers' := (store.listLinks_answers token path').call
  rw [listed'] at answers'
  exact ⟨members, answers', member⟩

/-- A file is inside of directories. -/
theorem directory_of_read {name : String} {rest : FileTree.Path} {contents : Bytes}
    (there : store.read (names ++ name :: rest) = .ok contents) :
    checkNames (store.place names) = .ok () ∧
      ∃ entries, find (store.place names) store.tree = .ok (.directory entries) := by
  obtain ⟨clean, found⟩ := read_eq_ok_iff.mp there
  rw [FileStore.found, place, ← List.append_assoc] at found
  rw [place, ← List.append_assoc, checkNames_append] at clean
  exact ⟨clean.1, directory_of_found_append found⟩

/-- The last two names on the way to a link are those of the member. -/
theorem LinkDirectory.last_names {front : FileTree.Path} {name last : String}
    (link : LinkDirectory repository (front ++ [name] ++ [last]) member) :
    ∃ algorithm, member.validate = .ok algorithm ∧ name = algorithm.name ∧ last = member.hex := by
  obtain ⟨_, path, -, named⟩ := link
  obtain ⟨algorithm, validates, names_eq⟩ := linkNames_eq_ok_iff.mp named
  rw [List.append_assoc] at names_eq
  obtain ⟨-, same⟩ := List.append_inj' names_eq rfl
  cases same
  exact ⟨algorithm, validates, rfl, rfl⟩

section Members

variable (tidy : store.Tidy repository) {members : List Digest}

include tidy

/-- A directory holds the member whose link file is in it. -/
theorem Tidy.mem_linkIn (held : store.linkIn names = .ok members) :
    digest ∈ members ↔ LinkDirectory repository names digest ∧
      store.read (names ++ [linkFile]) = .ok (Bytes.ofText digest.text) := by
  rw [linkIn] at held
  cases ran : store.read (names ++ [linkFile]) with
  | error error =>
    rw [ran] at held
    cases error
    case notFound =>
      cases held
      simp
    all_goals cases held
  | ok contents =>
    obtain ⟨member, link, rfl⟩ := tidy.link (read_eq_ok_iff.mp ran).2
    obtain ⟨_, _, algorithm, validates, -⟩ := link.names_eq
    rw [ran, textOf_ofText, memberOf, Digest.parse_trim validates] at held
    cases held
    rw [Except.toOption, Option.toList_some, List.mem_singleton]
    constructor
    · rintro rfl
      exact ⟨link, rfl⟩
    · rintro ⟨⟨_, _, _, named⟩, -⟩
      exact link.unique named

theorem Tidy.mem_linksUnder {name : String} (listed : store.linksUnder path name = .ok members) :
    digest ∈ members ↔ Algorithm.ofName? name ≠ none ∧ ∃ last,
      LinkDirectory repository (FileTree.Path.ofText path ++ [name] ++ [last]) digest ∧
      store.read (FileTree.Path.ofText path ++ [name] ++ [last] ++ [linkFile]) =
        .ok (Bytes.ofText digest.text) := by
  rw [linksUnder] at listed
  split at listed
  · next unknown =>
    cases listed
    simp [Option.isNone_iff_eq_none.mp unknown]
  · next known =>
    obtain ⟨links, looked, listed⟩ := bind_eq_ok_iff.mp listed
    obtain ⟨lists, ran, ended⟩ := bind_eq_ok_iff.mp listed
    cases ended
    rw [mem_flatten_of_mapM ran]
    constructor
    · rintro ⟨last, -, held, ran, there⟩
      exact ⟨by simpa using known, last, (tidy.mem_linkIn ran).mp there⟩
    · rintro ⟨-, last, link, there⟩
      have inside : last ∈ links := by
        obtain ⟨-, entries, here⟩ := directory_of_read there
        rw [mem_subdirectories_iff tidy.ordered (mapError_eq_ok_iff.mp looked), ← place_snoc]
        exact ⟨entries, found_of_find here⟩
      obtain ⟨held, ran⟩ := exists_ok_of_mapM ran inside
      exact ⟨last, inside, held, ran, (tidy.mem_linkIn ran).mpr ⟨link, there⟩⟩

/-- A listing shows the members of a set. -/
theorem Tidy.mem_linksAt (listed : store.linksAt path = .ok members) :
    digest ∈ members ↔ digest ∈ store.links path := by
  rw [linksAt] at listed
  split at listed
  · cases listed
  · cases listed
  next algorithms looked =>
  obtain ⟨lists, ran, rfl⟩ := map_eq_ok_iff.mp listed
  rw [mem_flatten_of_mapM ran]
  constructor
  · rintro ⟨name, -, held, ran, there⟩
    obtain ⟨-, last, link, there⟩ := (tidy.mem_linksUnder ran).mp there
    obtain ⟨algorithm, validates, rfl, rfl⟩ := link.last_names
    refine ⟨_, linkNames_eq_ok_iff.mpr ⟨algorithm, validates, ?_⟩, there⟩
    exact List.append_cons .. |>.symm
  · rintro ⟨names, named, there⟩
    obtain ⟨algorithm, validates, rfl⟩ := linkNames_eq_ok_iff.mp named
    obtain ⟨member, link, same⟩ := tidy.link (read_eq_ok_iff.mp there).2
    obtain rfl := link.unique named
    have names_eq := List.append_cons (FileTree.Path.ofText path) algorithm.name [digest.hex]
    rw [names_eq] at link there
    have inside : algorithm.name ∈ algorithms := by
      rw [List.append_assoc] at there
      obtain ⟨-, entries, here⟩ := directory_of_read there
      rw [mem_subdirectories_iff tidy.ordered looked, ← place_snoc]
      exact ⟨entries, found_of_find here⟩
    obtain ⟨held, ran⟩ := exists_ok_of_mapM ran inside
    have known : Algorithm.ofName? algorithm.name ≠ none := by simp
    exact ⟨algorithm.name, inside, held, ran,
      (tidy.mem_linksUnder ran).mpr ⟨known, digest.hex, link, there⟩⟩

/-- The directory of a link can be read. -/
theorem Tidy.linkIn_ok {entries : List (String × FileTree)}
    (here : find (store.place names) store.tree = .ok (.directory entries))
    (clean : checkNames (store.place names) = .ok ())
    (link : LinkDirectory repository names digest) : ∃ members, store.linkIn names = .ok members := by
  have fits : FitsName linkFile := Nat.le_of_ble_eq_true rfl
  have clean' : checkNames (store.place names ++ [linkFile]) = .ok () :=
    checkNames_append.mpr ⟨clean, rfl⟩
  cases there : entries.lookup linkFile with
  | none =>
    rw [linkIn, read, place_snoc, read_snoc_of_none here fits clean' there]
    exact ⟨[], rfl⟩
  | some old =>
    have found_eq : store.found (names ++ [linkFile]) = some old := by
      rw [found, place_snoc, found_snoc here fits, there]
    cases old with
    | directory entries => exact absurd found_eq (tidy.link_not_directory link)
    | file contents =>
      obtain ⟨member, link', rfl⟩ := tidy.link found_eq
      rw [linkIn, read, place_snoc, read_snoc_of_some here fits clean' there, textOf_ofText]
      exact ⟨_, rfl⟩

end Members

section Complete

variable (tidy : store.Tidy repository) {subject : Digest}
  (derived : referrersLinkPath repository subject = .ok path)

include tidy derived

/-- Below the place of a set, the members under every name can be listed. -/
theorem Tidy.linksUnder_ok {name : String} {entries : List (String × FileTree)}
    (clean : checkNames (store.place (FileTree.Path.ofText path)) = .ok ())
    (here : store.found (FileTree.Path.ofText path ++ [name]) = some (.directory entries)) :
    ∃ members, store.linksUnder path name = .ok members := by
  rw [linksUnder]
  split
  · exact ⟨[], rfl⟩
  next known =>
  obtain ⟨algorithm, known⟩ := Option.ne_none_iff_exists'.mp (by simpa using known)
  have clean : checkNames (store.place (FileTree.Path.ofText path ++ [name])) = .ok () := by
    obtain rfl : algorithm.name = name := by simpa using List.find?_some known
    rw [place_snoc]
    exact checkNames_append.mpr ⟨clean, by cases algorithm <;> rfl⟩
  obtain ⟨links, looked⟩ := subdirectories_of_find (find_of_found here) clean
  suffices each : ∀ last ∈ links, ∃ members,
      store.linkIn (FileTree.Path.ofText path ++ [name] ++ [last]) = .ok members by
    obtain ⟨lists, ran⟩ := exists_mapM_eq_ok each
    rw [looked]
    exact ⟨lists.flatten, bind_eq_ok_iff.mpr ⟨links, rfl, bind_eq_ok_iff.mpr ⟨lists, ran, rfl⟩⟩⟩
  intro last inside
  obtain ⟨entries, below⟩ := (mem_subdirectories_iff tidy.ordered looked).mp inside
  rw [← place_snoc] at below
  obtain ⟨member, link⟩ : ∃ member,
      LinkDirectory repository (FileTree.Path.ofText path ++ [name] ++ [last]) member := by
    obtain ⟨_, -, path_eq⟩ := ofText_referrersLinkPath derived
    rw [path_eq] at below ⊢
    exact tidy.link_of_directory below (by simp)
  obtain ⟨algorithm, validates, -, rfl⟩ := link.last_names
  have clean : checkNames (store.place (FileTree.Path.ofText path ++ [name] ++ [member.hex])) =
      .ok () := by
    rw [place_snoc]
    refine checkNames_append.mpr ⟨clean, checkNames_eq_ok_iff.mpr ?_⟩
    rw [List.forall_mem_singleton]
    intro zero
    exact absurd ((Digest.validate_eq_ok validates).2 _ zero) (by decide)
  exact tidy.linkIn_ok (find_of_found below) clean link

/-- A set with members can be listed. -/
theorem Tidy.linksAt_ok (there : digest ∈ store.links path) :
    ∃ members, store.linksAt path = .ok members := by
  obtain ⟨names, named, there⟩ := there
  obtain ⟨algorithm, validates, rfl⟩ := linkNames_eq_ok_iff.mp named
  rw [List.append_assoc] at there
  obtain ⟨clean, entries, here⟩ := directory_of_read there
  obtain ⟨algorithms, looked⟩ := subdirectories_of_find here clean
  suffices each : ∀ name ∈ algorithms, ∃ members, store.linksUnder path name = .ok members by
    obtain ⟨lists, ran⟩ := exists_mapM_eq_ok each
    rw [linksAt, looked]
    exact ⟨lists.flatten, map_eq_ok_iff.mpr ⟨lists, ran, rfl⟩⟩
  intro name inside
  obtain ⟨entries, below⟩ := (mem_subdirectories_iff tidy.ordered looked).mp inside
  rw [← place_snoc] at below
  exact tidy.linksUnder_ok derived clean below

end Complete

/-! ## The backend -/

instance : RefusingBackend FileStore where
  putBlob_digest {token mediaType payload world after descriptor} ran := by
    obtain ⟨error, failed, -⟩ | ⟨returned, done, -⟩ := call_ran ran
    · cases failed
    · exact putBlob_returns token mediaType payload world descriptor (congrArg Prod.fst done)
  putBlob_refused {token mediaType payload world after error} ran := by
    obtain ⟨_, -, unchanged⟩ | ⟨returned, done, store_eq⟩ := call_ran ran
    · exact .inr unchanged
    · rw [store_eq]
      exact putBlob_refused done
  addLink_refused {path digest world after error} valid ran :=
    (addLink_fails path valid).call ⟨_, rfl⟩ world error (congrArg Prod.fst ran)

instance : LinkBackend FileStore where
  SamePath path path' := FileTree.Path.ofText path = FileTree.Path.ofText path'
  Tidy := Tidy
  links := links
  samePath_refl _ := rfl
  putBlob_links {token mediaType repository payload world after result} tidy ran := by
    obtain ⟨_, -, unchanged⟩ | ⟨returned, done, store_eq⟩ := call_ran ran
    · rw [unchanged]
      exact ⟨tidy, rfl⟩
    · rw [store_eq]
      exact (putBlob_preserves repository _ token mediaType payload).holds done ⟨tidy, rfl⟩
  addLink_links {token repository path subject digest world after result} tidy derived valid ran := by
    obtain ⟨error, failed, unchanged⟩ | ⟨returned, done, store_eq⟩ := call_ran ran
    · rw [unchanged]
      exact ⟨tidy, .inl ⟨⟨error, failed⟩, rfl⟩⟩
    · rw [store_eq]
      exact addLink_links tidy derived valid done
  mem_links {repository path store token listing} tidy listed digest member := by
    have answer := (listLinks_answers store token path).call.unique listed
    exact (tidy.mem_linksAt answer).mp member
  lists {repository path subject digest store} tidy derived there token := by
    obtain ⟨members, listed⟩ := tidy.linksAt_ok derived there
    have answers := (listLinks_answers store token path).call
    rw [listed] at answers
    exact ⟨members, answers, (tidy.mem_linksAt listed).mpr there⟩

/-- There is nothing to tidy up in a tree without entries. -/
theorem tidy_empty (repository root : String) :
    (⟨root, .empty⟩ : FileStore).Tidy repository ∧ (⟨root, .empty⟩ : FileStore).links = fun _ => ∅ := by
  have nothing (names : FileTree.Path) (below : names ≠ []) :
      (⟨root, .empty⟩ : FileStore).found names = none := by
    apply found_empty
    simp [place, below]
  refine ⟨⟨.empty, ?_, ?_⟩, ?_⟩
  · intro directory contents there
    rw [nothing _ (by simp)] at there
    cases there
  · intro names entries there
    rw [nothing _ (by simp)] at there
    cases there
  · funext path
    rw [Set.eq_empty_iff_forall_notMem]
    rintro member ⟨names, -, there⟩
    have found := (read_eq_ok_iff.mp there).2
    rw [nothing _ (by simp)] at found
    cases found

end FileStore

end ArtifactRegistry
