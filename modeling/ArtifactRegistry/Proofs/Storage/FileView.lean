import ArtifactRegistry.Proofs.Storage.FileTree

/-! # Views of a file tree

Whoever works at certain places of a tree sees the files on the way to them, and what kind of thing is
there. Two trees with the same view, `AlikeOn`, let the same directories be made and the same files be
written at those places. Changes elsewhere leave the view as it is, and a change at one of the places
changes both trees alike.
-/

namespace ArtifactRegistry.FileTree

variable {path other place above : Path} {tree after tree' after' : FileTree} {name : String}
  {contents : Bytes} {entries : List (String × FileTree)} {new : FileTree}

/-! ## What stands in the way -/

/-- Below a file there is nothing. -/
theorem found_none_of_file (there : found above tree = some (.file contents)) (onTheWay : above <+: path)
    (differs : above ≠ path) : found path tree = none := by
  obtain ⟨rest, rfl⟩ := onTheWay
  cases rest with
  | nil => exact absurd (List.append_nil above).symm differs
  | cons name rest =>
    cases here : found (above ++ name :: rest) tree with
    | none => rfl
    | some new =>
      obtain ⟨entries, known⟩ := directory_of_found_append here
      cases (found_of_find known).symm.trans there

/-- A file is on the way to a place, or at the place. -/
def Blocked (path : Path) (tree : FileTree) : Prop :=
  ∃ above contents, above <+: path ∧ found above tree = some (.file contents)

theorem blocked_cons_file : Blocked (name :: path) (.file contents) :=
  ⟨[], contents, List.nil_prefix, rfl⟩

/-- Nothing is in the way of a directory that is there. -/
theorem not_blocked_of_directory (here : found path tree = some (.directory entries)) :
    ¬ Blocked path tree := by
  rintro ⟨above, contents, onTheWay, there⟩
  by_cases same : above = path
  · rw [same, here] at there
    cases there
  · rw [found_none_of_file there onTheWay same] at here
    cases here

theorem not_blocked_empty : ¬ Blocked path empty := by
  rintro ⟨above, contents, -, there⟩
  cases above with
  | nil => cases there
  | cons name rest =>
    rw [found_empty (List.cons_ne_nil name rest)] at there
    cases there

/-- In a directory, what is in the way is in the way below the entry. -/
theorem blocked_cons_directory (fits : FitsName name) :
    Blocked (name :: path) (.directory entries) ↔
      Blocked path ((entries.lookup name).getD empty) := by
  cases looked : entries.lookup name with
  | none =>
    rw [Option.getD_none]
    refine ⟨?_, fun blocked => absurd blocked not_blocked_empty⟩
    rintro ⟨above, contents, onTheWay, there⟩
    cases above with
    | nil => cases there
    | cons first rest =>
      obtain ⟨rfl, -⟩ := List.cons_prefix_cons.mp onTheWay
      rw [found_cons_of_lookup_none fits looked] at there
      cases there
  | some below =>
    rw [Option.getD_some]
    constructor
    · rintro ⟨above, contents, onTheWay, there⟩
      cases above with
      | nil => cases there
      | cons first rest =>
        obtain ⟨rfl, inner⟩ := List.cons_prefix_cons.mp onTheWay
        rw [found_cons_of_lookup fits looked] at there
        exact ⟨rest, contents, inner, there⟩
    · rintro ⟨above, contents, onTheWay, there⟩
      refine ⟨name :: above, contents, List.cons_prefix_cons.mpr ⟨rfl, onTheWay⟩, ?_⟩
      rw [found_cons_of_lookup fits looked]
      exact there

/-- Why directories cannot be made when a file is in the way. -/
def obstacle (path : Path) (tree : FileTree) : MediumError :=
  match found path tree with
  | some (.file _) => .alreadyExists
  | _ => .notDirectory

theorem obstacle_ne : obstacle path tree ≠ .nameTooLong := by
  rw [obstacle]
  split
  · nofun
  · nofun

theorem obstacle_of_no_file (noFile : ¬ ∃ contents, found path tree = some (.file contents)) :
    obstacle path tree = .notDirectory := by
  rw [obstacle]
  split
  · next there => exact absurd ⟨_, there⟩ noFile
  · rfl

/-- Directories with names that fit are made unless a file is in the way. -/
theorem makeDirectories_of_fits (fits : ∀ name ∈ path, FitsName name) (tree : FileTree) :
    (¬ Blocked path tree ∧ ∃ after, makeDirectories path tree = .ok after) ∨
      Blocked path tree ∧ makeDirectories path tree = .error (obstacle path tree) := by
  induction path generalizing tree with
  | nil =>
    cases tree with
    | directory entries =>
      refine .inl ⟨?_, _, rfl⟩
      rintro ⟨above, contents, onTheWay, there⟩
      rw [List.prefix_nil.mp onTheWay] at there
      cases there
    | file contents =>
      exact .inr ⟨⟨[], contents, List.nil_prefix, rfl⟩, rfl⟩
  | cons name rest ih =>
    obtain ⟨fitsName, fitsRest⟩ := List.forall_mem_cons.mp fits
    cases tree with
    | file contents =>
      exact .inr ⟨blocked_cons_file, rfl⟩
    | directory entries =>
      rw [blocked_cons_directory fitsName, makeDirectories, if_neg (Nat.not_lt.mpr fitsName)]
      rcases ih fitsRest ((entries.lookup name).getD empty) with ⟨free, new, made⟩ | ⟨blocked, refused⟩
      · rw [made]
        exact .inl ⟨free, _, rfl⟩
      · refine .inr ⟨blocked, ?_⟩
        have same : obstacle rest ((entries.lookup name).getD empty) =
            obstacle (name :: rest) (.directory entries) := by
          cases looked : entries.lookup name with
          | none =>
            rw [looked] at blocked
            exact absurd blocked not_blocked_empty
          | some below => rw [obstacle, obstacle, found_cons_of_lookup fitsName looked, Option.getD_some]
        rw [refused, same]
        rfl

/-! ## Trees that look alike from some places -/

/-- From some places, two trees cannot be told apart: the same files are on the way, and there are
directories at the same ones of the places. -/
structure AlikeOn (places : Set Path) (tree tree' : FileTree) : Prop where
  file_iff {place path : Path} {contents : Bytes} (watched : place ∈ places)
    (onTheWay : path <+: place) :
    found path tree = some (.file contents) ↔ found path tree' = some (.file contents)
  directory_iff {place : Path} (watched : place ∈ places) :
    (∃ entries, found place tree = some (.directory entries)) ↔
      ∃ entries, found place tree' = some (.directory entries)

namespace AlikeOn

variable {places : Set Path}

protected theorem refl (places : Set Path) (tree : FileTree) : AlikeOn places tree tree :=
  ⟨fun _ _ => .rfl, fun _ => .rfl⟩

protected theorem symm (alike : AlikeOn places tree tree') : AlikeOn places tree' tree :=
  ⟨fun watched onTheWay => (alike.file_iff watched onTheWay).symm,
    fun watched => (alike.directory_iff watched).symm⟩

protected theorem trans {tree'' : FileTree} (first : AlikeOn places tree tree')
    (second : AlikeOn places tree' tree'') : AlikeOn places tree tree'' :=
  ⟨fun watched onTheWay => (first.file_iff watched onTheWay).trans (second.file_iff watched onTheWay),
    fun watched => (first.directory_iff watched).trans (second.directory_iff watched)⟩

/-- Both trees have something at a place, or neither has. -/
theorem none_iff (alike : AlikeOn places tree tree') (watched : place ∈ places) :
    found place tree = none ↔ found place tree' = none := by
  have nothing_iff (tree : FileTree) : found place tree = none ↔
      (∀ contents, found place tree ≠ some (.file contents)) ∧
        ¬ ∃ entries, found place tree = some (.directory entries) := by
    constructor
    · intro missing
      simp [missing]
    · rintro ⟨noFile, noDirectory⟩
      cases there : found place tree with
      | none => rfl
      | some new =>
        cases new with
        | file contents => exact absurd there (noFile contents)
        | directory entries => exact absurd ⟨entries, there⟩ noDirectory
  rw [nothing_iff, nothing_iff, alike.directory_iff watched]
  exact and_congr_left' (forall_congr' fun _ => not_congr (alike.file_iff watched List.prefix_rfl))

theorem blocked_iff (alike : AlikeOn places tree tree') (watched : place ∈ places)
    (onTheWay : path <+: place) : Blocked path tree ↔ Blocked path tree' := by
  constructor
  · rintro ⟨above, contents, within, there⟩
    exact ⟨above, contents, within, (alike.file_iff watched (within.trans onTheWay)).mp there⟩
  · rintro ⟨above, contents, within, there⟩
    exact ⟨above, contents, within, (alike.file_iff watched (within.trans onTheWay)).mpr there⟩

/-- On the way to the places, directories can be made in both trees, or fail to be made alike. -/
theorem makeDirectories_same (alike : AlikeOn places tree tree') (watched : place ∈ places)
    (onTheWay : path <+: place) (fits : ∀ name ∈ path, FitsName name) :
    (∃ after after', makeDirectories path tree = .ok after ∧
        makeDirectories path tree' = .ok after') ∨
      ∃ error, error ≠ .nameTooLong ∧ makeDirectories path tree = .error error ∧
        makeDirectories path tree' = .error error := by
  have blocked_iff := alike.blocked_iff watched onTheWay
  have same : obstacle path tree = obstacle path tree' := by
    by_cases file : ∃ contents, found path tree = some (.file contents)
    · obtain ⟨contents, there⟩ := file
      rw [obstacle, obstacle, there, (alike.file_iff watched onTheWay).mp there]
    · have file' : ¬ ∃ contents, found path tree' = some (.file contents) := by
        rintro ⟨contents, there⟩
        exact file ⟨contents, (alike.file_iff watched onTheWay).mpr there⟩
      rw [obstacle_of_no_file file, obstacle_of_no_file file']
  rcases makeDirectories_of_fits fits tree with ⟨free, after, made⟩ | ⟨blocked, refused⟩
  · rcases makeDirectories_of_fits fits tree' with ⟨-, after', made'⟩ | ⟨blocked', -⟩
    · exact .inl ⟨after, after', made, made'⟩
    · exact absurd (blocked_iff.mpr blocked') free
  · rcases makeDirectories_of_fits fits tree' with ⟨free', -⟩ | ⟨-, refused'⟩
    · exact absurd (blocked_iff.mp blocked) free'
    · exact .inr ⟨obstacle path tree, obstacle_ne, refused, same ▸ refused'⟩

end AlikeOn

/-! ## Changes -/

section Changes

variable {places : Set Path}

/-- Directories that lead past the places make no difference. -/
theorem alikeOn_makeDirectories (ran : makeDirectories path tree = .ok after)
    (apart : ∀ place ∈ places, ¬ place <+: path) : AlikeOn places after tree := by
  refine ⟨fun watched onTheWay => found_file_makeDirectories ran, fun watched => ?_⟩
  rw [found_makeDirectories ran (apart _ watched)]

variable {change change' : Option FileTree → Except MediumError FileTree}
  (writes : Writes change contents)

include writes

/-- A file that is on no way to the places, and below none of them, makes no difference. -/
theorem alikeOn_update (ran : update change path tree = .ok after)
    (above : ∀ place ∈ places, ¬ place <+: path) (below : ∀ place ∈ places, ¬ path <+: place) :
    AlikeOn places after tree := by
  refine ⟨fun {place other contents'} watched onTheWay => ?_, fun {place} watched => ?_⟩
  · rw [found_file_update writes ran, if_neg]
    rintro rfl
    exact below place watched onTheWay
  · rw [found_update ran (above place watched) (below place watched)]

/-- The same file written at one of the places leaves trees alike that were alike. -/
theorem AlikeOn.update (alike : AlikeOn places tree tree') (writes' : Writes change' contents)
    (ran : update change path tree = .ok after) (ran' : update change' path tree' = .ok after')
    (incomparable : ∀ place ∈ places, place ≠ path → ¬ place <+: path ∧ ¬ path <+: place) :
    AlikeOn places after after' := by
  refine ⟨fun {place other contents'} watched onTheWay => ?_, fun {place} watched => ?_⟩
  · rw [found_file_update writes ran, found_file_update writes' ran', alike.file_iff watched onTheWay]
  · by_cases same : place = path
    · have written : found place after = some (.file contents) := by
        rw [found_file_update writes ran, if_pos same]
      have written' : found place after' = some (.file contents) := by
        rw [found_file_update writes' ran', if_pos same]
      rw [written, written']
    · obtain ⟨above, below⟩ := incomparable place watched same
      rw [found_update ran above below, found_update ran' above below]
      exact alike.directory_iff watched

end Changes

/-! ## Looking -/

/-- What is not there cannot be entered, unless a file is in the way. -/
theorem find_of_found_none (fits : ∀ name ∈ path, FitsName name) (missing : found path tree = none)
    (free : ¬ Blocked path tree) : find path tree = .error .notFound := by
  induction path generalizing tree with
  | nil => cases missing
  | cons name rest ih =>
    obtain ⟨fitsName, fitsRest⟩ := List.forall_mem_cons.mp fits
    cases tree with
    | file contents => exact absurd blocked_cons_file free
    | directory entries =>
      rw [blocked_cons_directory fitsName] at free
      rw [find, child_directory fitsName]
      cases looked : entries.lookup name with
      | none => rfl
      | some below =>
        rw [looked, Option.getD_some] at free
        rw [found_cons_of_lookup fitsName looked] at missing
        exact ih fitsRest missing free

/-- Behind a file, nothing can be entered. -/
theorem find_of_blocked (fits : ∀ name ∈ path, FitsName name) (blocked : Blocked path tree) :
    find path tree = .error .notDirectory ∨ ∃ contents, find path tree = .ok (.file contents) := by
  induction path generalizing tree with
  | nil =>
    obtain ⟨above, contents, onTheWay, there⟩ := blocked
    rw [List.prefix_nil.mp onTheWay] at there
    cases there
    exact .inr ⟨contents, rfl⟩
  | cons name rest ih =>
    obtain ⟨fitsName, fitsRest⟩ := List.forall_mem_cons.mp fits
    cases tree with
    | file contents => exact .inl rfl
    | directory entries =>
      rw [blocked_cons_directory fitsName] at blocked
      rw [find, child_directory fitsName]
      cases looked : entries.lookup name with
      | none =>
        rw [looked] at blocked
        exact absurd blocked not_blocked_empty
      | some below =>
        rw [looked, Option.getD_some] at blocked
        exact ih fitsRest blocked

/-- The names of directories are listed in strictly ascending order. -/
theorem subdirectories_ascending {names : List String} (ordered : Ordered tree)
    (ran : subdirectories path tree = .ok names) : names.Pairwise (· < ·) := by
  obtain ⟨there, looked, ended⟩ := bind_eq_ok_iff.mp ran
  obtain ⟨⟨⟩, -, here⟩ := bind_eq_ok_iff.mp looked
  cases there with
  | file contents => cases ended
  | directory entries =>
    cases ended
    obtain ⟨ascending, -⟩ := ordered path entries (found_of_find here)
    have names_ascending : ((entries.filter fun entry => entry.2.isDirectory).map Prod.fst).Pairwise
        (· < ·) := List.pairwise_map.mpr (ascending.sublist List.filter_sublist)
    have sorted : ((entries.filter fun entry => entry.2.isDirectory).map Prod.fst).Pairwise
        fun a b => decide (a ≤ b) = true := by
      apply names_ascending.imp
      intro a b before
      exact decide_eq_true (Std.le_of_lt before)
    rw [List.mergeSort_of_pairwise sorted]
    exact names_ascending

/-- The directories at a place are these, in order. -/
structure Shows (path : Path) (tree : FileTree) (names : List String) : Prop where
  ascending : names.Pairwise (· < ·)
  mem_iff {name : String} :
    name ∈ names ↔ ∃ entries, found (path ++ [name]) tree = some (.directory entries)

theorem shows_of_subdirectories {names : List String} (ordered : Ordered tree)
    (ran : subdirectories path tree = .ok names) : Shows path tree names :=
  ⟨subdirectories_ascending ordered ran, mem_subdirectories_iff ordered ran⟩

theorem subdirectories_of_not_clean (zero : ¬ checkNames path = .ok ()) :
    subdirectories path tree = .error .zeroByteInName := by
  rw [subdirectories, lookUp]
  rw [checkNames] at zero ⊢
  split
  · rfl
  · next proper => exact absurd (if_neg proper) zero

section Subdirectories

variable (clean : checkNames path = .ok ()) (fits : ∀ name ∈ path, FitsName name)

include clean fits

theorem subdirectories_of_blocked (blocked : Blocked path tree) :
    subdirectories path tree = .error .notDirectory := by
  rw [subdirectories, lookUp, clean]
  rcases find_of_blocked fits blocked with failed | ⟨contents, walked⟩
  · simp only [bind, Except.bind, failed]
  · simp only [bind, Except.bind, walked]
    rfl

/-- A listing that no file is in the way of shows the directories, or says that there is no place. -/
theorem subdirectories_of_free (ordered : Ordered tree) (free : ¬ Blocked path tree) :
    ∃ names, Shows path tree names ∧
      ((∃ entries, found path tree = some (.directory entries)) ∧
          subdirectories path tree = .ok names ∨
        names = [] ∧ subdirectories path tree = .error .notFound) := by
  cases there : found path tree with
  | none =>
    refine ⟨[], ⟨.nil, fun {name} => ?_⟩, .inr ⟨rfl, ?_⟩⟩
    · constructor
      · intro member
        cases member
      · rintro ⟨entries, below⟩
        obtain ⟨_, here⟩ := directory_of_found_append below
        cases there.symm.trans (found_of_find here)
    · rw [subdirectories, lookUp, clean]
      simp only [bind, Except.bind, find_of_found_none fits there free]
  | some new =>
    cases new with
    | file contents => exact absurd ⟨path, contents, List.prefix_rfl, there⟩ free
    | directory entries =>
      obtain ⟨names, looked⟩ := subdirectories_of_find (find_of_found there) clean
      exact ⟨names, shows_of_subdirectories ordered looked, .inl ⟨⟨entries, rfl⟩, looked⟩⟩

end Subdirectories

/-- Reading tells files from directories. -/
theorem read_of_found (clean : checkNames path = .ok ()) (there : found path tree = some new) :
    read path tree = match new with
      | .file contents => .ok contents
      | .directory _ => .error .isDirectory := by
  rw [read, lookUp, clean]
  simp only [bind, Except.bind, find_of_found there]
  cases new <;> rfl

/-! ## Trees with proper names -/

/-- Directories are in order, and all names can be looked up. -/
structure Regular (tree : FileTree) : Prop where
  ordered : tree.Ordered
  clean {path : Path} {new : FileTree} (there : found path tree = some new) :
    checkNames path = .ok ()

namespace Regular

protected theorem empty : Regular empty := by
  refine ⟨.empty, fun {path new} there => ?_⟩
  cases path with
  | nil => rfl
  | cons name rest =>
    rw [found_empty (List.cons_ne_nil name rest)] at there
    cases there

protected theorem createDirectories (regular : Regular tree)
    (ran : createDirectories path tree = .ok after) : Regular after := by
  obtain ⟨clean, made⟩ := createDirectories_eq_ok ran
  refine ⟨regular.ordered.makeDirectories made, fun {other new} there => ?_⟩
  cases new with
  | file contents => exact regular.clean ((found_file_makeDirectories made).mp there)
  | directory entries =>
    rcases found_directory_makeDirectories made there with ⟨rest, rfl⟩ | ⟨_, before⟩
    · exact (checkNames_append.mp clean).1
    · exact regular.clean before

protected theorem createFile {contents : Bytes} (regular : Regular tree)
    (ran : createFile path contents tree = .ok after) : Regular after := by
  obtain ⟨⟨⟩, clean, -⟩ := bind_eq_ok_iff.mp ran
  obtain ⟨change, writes, updated⟩ := createFile_eq_ok ran
  refine ⟨regular.ordered.update writes updated, fun {other new} there => ?_⟩
  cases new with
  | file contents' =>
    rw [found_file_update writes updated] at there
    split at there
    · next same => exact same ▸ clean
    · exact regular.clean there
  | directory entries =>
    obtain ⟨_, before⟩ := found_directory_update writes updated there
    exact regular.clean before

end Regular

end ArtifactRegistry.FileTree
