import ArtifactRegistry.Proofs.Outcome
import ArtifactRegistry.Proofs.SortedMap
import ArtifactRegistry.Storage.FileTree

/-! # What changes in a file tree

A change below one path leaves everything alone that is neither on the way to the path nor below it:
`found_update` and `found_makeDirectories`. Of the files of a tree, a write changes the one that is
written, and making directories changes none: `found_file_update` and `found_file_makeDirectories`. In a
directory that is known, an update comes down to the entry of one name: `update_snoc_of_ok`.
-/

namespace ArtifactRegistry.FileTree

variable {path other dir : Path} {tree after new : FileTree} {name : String}
  {entries : List (String × FileTree)}

/-- What is at a path, if anything. -/
def found (path : Path) (tree : FileTree) : Option FileTree := (find path tree).toOption

/-- A name that is not too long to be looked up. -/
def FitsName (name : String) : Prop := name.utf8ByteSize ≤ nameLimit

theorem found_of_find (here : find path tree = .ok new) : found path tree = some new := by
  rw [found, here]
  rfl

theorem found_cons : found (name :: path) tree = (tree.child name).toOption.bind (found path) := by
  rw [found, find]
  cases tree.child name <;> rfl

theorem find_append : find (path ++ other) tree = (find path tree).bind (find other) := by
  induction path generalizing tree with
  | nil => rfl
  | cons name rest ih =>
    rw [List.cons_append, find, find]
    cases tree.child name with
    | error error => rfl
    | ok below => exact ih

theorem child_directory (fits : FitsName name) :
    child name (.directory entries) =
      match entries.lookup name with
      | some tree => .ok tree
      | none => .error .notFound := by
  rw [child]
  exact if_neg (Nat.not_lt.mpr fits)

/-- In a directory, a path goes on below the entry of its first name. -/
theorem found_cons_directory (fits : FitsName name) :
    found (name :: path) (.directory entries) = (entries.lookup name).bind (found path) := by
  rw [found_cons, child_directory fits]
  cases entries.lookup name <;> rfl

/-- Entries with other names do not matter. -/
theorem found_cons_insertEntry_of_ne {written : String} (differs : name ≠ written) :
    found (name :: path) (.directory (SortedMap.insertEntry written new entries)) =
      found (name :: path) (.directory entries) := by
  rw [found_cons, found_cons, child, child, SortedMap.lookup_insertEntry, if_neg differs]

theorem found_cons_insertEntry (fits : FitsName name) :
    found (name :: path) (.directory (SortedMap.insertEntry name new entries)) = found path new := by
  rw [found_cons_directory fits, SortedMap.lookup_insertEntry, if_pos rfl]
  rfl

/-- A path is walked through directories. -/
theorem find_cons_eq_ok_iff {result : FileTree} :
    find (name :: path) tree = .ok result ↔ ∃ entries below, tree = .directory entries ∧
      FitsName name ∧ entries.lookup name = some below ∧ find path below = .ok result := by
  cases tree with
  | file contents =>
    constructor
    · intro walked
      cases walked
    · rintro ⟨_, _, same, -⟩
      cases same
  | directory entries =>
    by_cases fits : FitsName name
    · rw [find, child_directory fits]
      cases there : entries.lookup name with
      | none =>
        constructor
        · intro walked
          cases walked
        · rintro ⟨_, below, ⟨⟩, -, found, -⟩
          cases there.symm.trans found
      | some below =>
        constructor
        · intro walked
          exact ⟨entries, below, rfl, fits, there, walked⟩
        · rintro ⟨_, _, ⟨⟩, -, found, walked⟩
          cases there.symm.trans found
          exact walked
    · rw [find, child, if_pos (Nat.lt_of_not_le fits)]
      constructor
      · intro walked
        cases walked
      · rintro ⟨_, _, _, fits', _⟩
        exact absurd fits' fits

theorem found_empty (below : path ≠ []) : found path empty = none := by
  cases path with
  | nil => exact absurd rfl below
  | cons name rest =>
    rw [found_cons, empty, child]
    split <;> rfl

/-- What is in a directory that is known. -/
theorem find_snoc (here : find dir tree = .ok (.directory entries)) (fits : FitsName name) :
    find (dir ++ [name]) tree =
      match entries.lookup name with
      | some tree => .ok tree
      | none => .error .notFound := by
  rw [find_append, here]
  change find [name] (.directory entries) = _
  rw [find, child_directory fits]
  cases entries.lookup name <;> rfl

theorem found_snoc (here : find dir tree = .ok (.directory entries)) (fits : FitsName name) :
    found (dir ++ [name]) tree = entries.lookup name := by
  rw [found, find_snoc here fits]
  cases entries.lookup name <;> rfl

/-! ## Updates -/

variable {change : Option FileTree → Except MediumError FileTree}

theorem update_cons (fits : FitsName name) (deeper : path ≠ []) :
    update change (name :: path) (.directory entries) =
      match entries.lookup name with
      | none => .error .notFound
      | some tree => (update change path tree).map fun tree =>
        .directory (SortedMap.insertEntry name tree entries) := by
  rw [update]
  · exact if_neg (Nat.not_lt.mpr fits)
  · exact deeper

/-- An update rebuilds one entry of the directory that it starts from. -/
theorem update_cons_eq_ok (ran : update change (name :: path) tree = .ok after) :
    ∃ entries new, tree = .directory entries ∧ FitsName name ∧
      after = .directory (SortedMap.insertEntry name new entries) ∧
      (path = [] ∧ change (entries.lookup name) = .ok new ∨
        ∃ old, entries.lookup name = some old ∧ update change path old = .ok new) := by
  cases tree with
  | file contents => cases path <;> cases ran
  | directory entries =>
    by_cases fits : FitsName name
    · cases path with
      | nil =>
        rw [update, if_neg (Nat.not_lt.mpr fits), map_eq_ok_iff] at ran
        obtain ⟨new, changed, rfl⟩ := ran
        exact ⟨entries, new, rfl, fits, rfl, .inl ⟨rfl, changed⟩⟩
      | cons next rest =>
        rw [update_cons fits (List.cons_ne_nil next rest)] at ran
        cases old : entries.lookup name with
        | none =>
          rw [old] at ran
          cases ran
        | some below =>
          simp only [old, map_eq_ok_iff] at ran
          obtain ⟨new, updated, rfl⟩ := ran
          exact ⟨entries, new, rfl, fits, rfl, .inr ⟨below, old, updated⟩⟩
    · have long := Nat.lt_of_not_le fits
      cases path with
      | nil =>
        rw [update, if_pos long] at ran
        cases ran
      | cons next rest =>
        rw [update, if_pos long] at ran
        · cases ran
        · intro bare
          cases bare

/-- An update leaves alone what is neither on the way nor below. -/
theorem found_update (ran : update change path tree = .ok after) (above : ¬ other <+: path)
    (below : ¬ path <+: other) : found other after = found other tree := by
  induction path generalizing other tree after with
  | nil => exact absurd List.nil_prefix below
  | cons name rest ih =>
    obtain ⟨entries, new, rfl, fits, rfl, deeper⟩ := update_cons_eq_ok ran
    cases other with
    | nil => exact absurd List.nil_prefix above
    | cons first others =>
      by_cases same : first = name
      · subst same
        rw [List.cons_prefix_cons] at above below
        rcases deeper with ⟨rfl, -⟩ | ⟨old, there, updated⟩
        · exact absurd ⟨rfl, List.nil_prefix⟩ below
        · rw [found_cons_insertEntry fits, found_cons_directory fits, there]
          apply ih updated
          · intro inner
            exact above ⟨rfl, inner⟩
          · intro inner
            exact below ⟨rfl, inner⟩
      · exact found_cons_insertEntry_of_ne same

/-- In a known directory, an update changes the entry of one name. -/
theorem update_snoc_of_ok (here : find dir tree = .ok (.directory entries)) (fits : FitsName name)
    (changed : change (entries.lookup name) = .ok new) :
    ∃ after, update change (dir ++ [name]) tree = .ok after ∧
      find dir after = .ok (.directory (SortedMap.insertEntry name new entries)) := by
  induction dir generalizing tree with
  | nil =>
    cases here
    refine ⟨_, ?_, rfl⟩
    rw [List.nil_append, update, if_neg (Nat.not_lt.mpr fits), changed]
    rfl
  | cons first rest ih =>
    obtain ⟨outer, below, rfl, fitsFirst, there, inner⟩ := find_cons_eq_ok_iff.mp here
    obtain ⟨after, updated, known⟩ := ih inner
    refine ⟨.directory (SortedMap.insertEntry first after outer), ?_, ?_⟩
    · rw [List.cons_append, update_cons fitsFirst (by simp), there]
      simp only [updated]
      rfl
    · have there : (SortedMap.insertEntry first after outer).lookup first = some after := by
        rw [SortedMap.lookup_insertEntry, if_pos rfl]
      exact find_cons_eq_ok_iff.mpr ⟨_, after, rfl, fitsFirst, there, known⟩

theorem update_snoc_of_error {error : MediumError} (here : find dir tree = .ok (.directory entries))
    (fits : FitsName name) (refused : change (entries.lookup name) = .error error) :
    update change (dir ++ [name]) tree = .error error := by
  induction dir generalizing tree with
  | nil =>
    cases here
    rw [List.nil_append, update, if_neg (Nat.not_lt.mpr fits), refused]
    rfl
  | cons first rest ih =>
    obtain ⟨outer, below, rfl, fitsFirst, there, inner⟩ := find_cons_eq_ok_iff.mp here
    rw [List.cons_append, update_cons fitsFirst (by simp), there]
    simp only [ih inner]
    rfl

/-! ## Making directories -/

theorem makeDirectories_nil_eq_ok (ran : makeDirectories [] tree = .ok after) :
    ∃ entries, tree = .directory entries ∧ after = .directory entries := by
  cases tree with
  | file contents => cases ran
  | directory entries =>
    cases ran
    exact ⟨entries, rfl, rfl⟩

theorem makeDirectories_cons_eq_ok (ran : makeDirectories (name :: path) tree = .ok after) :
    ∃ entries new, tree = .directory entries ∧ FitsName name ∧
      after = .directory (SortedMap.insertEntry name new entries) ∧
      makeDirectories path ((entries.lookup name).getD empty) = .ok new := by
  cases tree with
  | file contents => cases ran
  | directory entries =>
    rw [makeDirectories] at ran
    split at ran
    · cases ran
    next fits =>
    obtain ⟨new, made, rfl⟩ := map_eq_ok_iff.mp ran
    exact ⟨entries, new, rfl, Nat.not_lt.mp fits, rfl, made⟩

/-- The directory is there afterwards. -/
theorem find_makeDirectories (ran : makeDirectories path tree = .ok after) :
    ∃ entries, find path after = .ok (.directory entries) := by
  induction path generalizing tree after with
  | nil =>
    obtain ⟨entries, rfl, rfl⟩ := makeDirectories_nil_eq_ok ran
    exact ⟨entries, rfl⟩
  | cons name rest ih =>
    obtain ⟨entries, new, rfl, fits, rfl, made⟩ := makeDirectories_cons_eq_ok ran
    obtain ⟨inner, here⟩ := ih made
    have there : (SortedMap.insertEntry name new entries).lookup name = some new := by
      rw [SortedMap.lookup_insertEntry, if_pos rfl]
    exact ⟨inner, find_cons_eq_ok_iff.mpr ⟨_, new, rfl, fits, there, here⟩⟩

/-- Making directories leaves alone what is not on the way. -/
theorem found_makeDirectories (ran : makeDirectories path tree = .ok after)
    (apart : ¬ other <+: path) : found other after = found other tree := by
  induction path generalizing other tree after with
  | nil =>
    obtain ⟨entries, rfl, rfl⟩ := makeDirectories_nil_eq_ok ran
    rfl
  | cons name rest ih =>
    obtain ⟨entries, new, rfl, fits, rfl, made⟩ := makeDirectories_cons_eq_ok ran
    cases other with
    | nil => exact absurd List.nil_prefix apart
    | cons first others =>
      by_cases same : first = name
      · subst same
        have inner : ¬ others <+: rest := by
          intro inner
          exact apart (List.cons_prefix_cons.mpr ⟨rfl, inner⟩)
        rw [found_cons_insertEntry fits, found_cons_directory fits, ih made inner]
        cases entries.lookup first with
        | none =>
          apply found_empty
          rintro rfl
          exact inner List.nil_prefix
        | some below => rfl
      · exact found_cons_insertEntry_of_ne same

/-! ## Files and directories

Making directories neither makes nor removes a file, and writing a file makes no directory.
-/

theorem found_cons_of_lookup {below : FileTree} (fits : FitsName name)
    (there : entries.lookup name = some below) :
    found (name :: path) (.directory entries) = found path below := by
  rw [found_cons_directory fits, there]
  rfl

theorem found_cons_of_lookup_none (fits : FitsName name) (vacant : entries.lookup name = none) :
    found (name :: path) (.directory entries) = none := by
  rw [found_cons_directory fits, vacant]
  rfl

/-- Nothing is below a file. -/
theorem found_cons_file {contents : Bytes} : found (name :: path) (.file contents) = none := by
  rw [found_cons]
  rfl

theorem found_empty_ne_file {contents : Bytes} : found path empty ≠ some (.file contents) := by
  intro is
  cases path with
  | nil => cases is
  | cons name path =>
    rw [found_empty (List.cons_ne_nil name path)] at is
    cases is

theorem found_file_makeDirectories {contents : Bytes} (ran : makeDirectories path tree = .ok after) :
    found other after = some (.file contents) ↔ found other tree = some (.file contents) := by
  induction path generalizing other tree after with
  | nil =>
    obtain ⟨entries, rfl, rfl⟩ := makeDirectories_nil_eq_ok ran
    rfl
  | cons name rest ih =>
    obtain ⟨entries, new, rfl, fits, rfl, made⟩ := makeDirectories_cons_eq_ok ran
    cases other with
    | nil =>
      constructor
      · intro is
        cases is
      · intro is
        cases is
    | cons first others =>
      by_cases same : first = name
      · subst same
        rw [found_cons_insertEntry fits, ih made]
        cases there : entries.lookup first with
        | some below => rw [found_cons_of_lookup fits there, Option.getD_some]
        | none =>
          rw [found_cons_of_lookup_none fits there, Option.getD_none]
          exact iff_of_false found_empty_ne_file nofun
      · rw [found_cons_insertEntry_of_ne same]

/-- The directories afterwards are those before and those on the way. -/
theorem found_directory_makeDirectories (ran : makeDirectories path tree = .ok after)
    (there : found other after = some (.directory entries)) :
    other <+: path ∨ ∃ entries, found other tree = some (.directory entries) := by
  by_cases onTheWay : other <+: path
  · exact .inl onTheWay
  · rw [found_makeDirectories ran onTheWay] at there
    exact .inr ⟨entries, there⟩

/-- A change that puts a file where no directory is. -/
structure Writes (change : Option FileTree → Except MediumError FileTree) (contents : Bytes) :
    Prop where
  file {old : Option FileTree} {new : FileTree} (ran : change old = .ok new) : new = .file contents
  refuses {entries : List (String × FileTree)} {new : FileTree} :
    change (some (.directory entries)) ≠ .ok new

section Writes

variable {contents : Bytes} (writes : Writes change contents)

include writes

/-- Where a file is written, there was no directory before. -/
theorem found_none_of_writes (fits : FitsName name)
    (changed : change (entries.lookup name) = .ok new) (next : String) :
    found (name :: next :: path) (.directory entries) = none := by
  cases there : entries.lookup name with
  | none => exact found_cons_of_lookup_none fits there
  | some old =>
    rw [found_cons_of_lookup fits there]
    cases old with
    | file contents => exact found_cons_file
    | directory inner =>
      rw [there] at changed
      exact absurd changed writes.refuses

theorem found_file_update {contents' : Bytes} (ran : update change path tree = .ok after) :
    found other after = some (.file contents') ↔
      if other = path then contents' = contents else found other tree = some (.file contents') := by
  induction path generalizing other tree after with
  | nil => cases tree <;> cases ran
  | cons name rest ih =>
    obtain ⟨entries, new, rfl, fits, rfl, deeper⟩ := update_cons_eq_ok ran
    cases other with
    | nil =>
      rw [if_neg (List.cons_ne_nil name rest).symm]
      constructor
      · intro is
        cases is
      · intro is
        cases is
    | cons first others =>
      by_cases same : first = name
      · subst same
        rw [found_cons_insertEntry fits]
        rcases deeper with ⟨rfl, changed⟩ | ⟨old, there, updated⟩
        · obtain rfl := writes.file changed
          cases others with
          | nil =>
            rw [if_pos rfl]
            constructor
            · rintro ⟨⟩
              rfl
            · rintro rfl
              rfl
          | cons next others =>
            rw [if_neg (by simp), found_none_of_writes writes fits changed, found_cons_file]
        · rw [ih updated, found_cons_of_lookup fits there]
          simp
      · rw [found_cons_insertEntry_of_ne same, if_neg]
        rintro ⟨⟩
        exact same rfl

theorem found_directory_update (ran : update change path tree = .ok after)
    (there : found other after = some (.directory entries)) :
    ∃ entries, found other tree = some (.directory entries) := by
  induction path generalizing other tree after with
  | nil => cases tree <;> cases ran
  | cons name rest ih =>
    obtain ⟨outer, new, rfl, fits, rfl, deeper⟩ := update_cons_eq_ok ran
    cases other with
    | nil => exact ⟨outer, rfl⟩
    | cons first others =>
      by_cases same : first = name
      · subst same
        rw [found_cons_insertEntry fits] at there
        rcases deeper with ⟨rfl, changed⟩ | ⟨old, below, updated⟩
        · obtain rfl := writes.file changed
          cases others with
          | nil => cases there
          | cons next others =>
            rw [found_cons_file] at there
            cases there
        · rw [found_cons_of_lookup fits below]
          exact ih updated there
      · rw [found_cons_insertEntry_of_ne same] at there
        exact ⟨entries, there⟩

end Writes

/-! ## Directories in order -/

/-- In every directory, names that can be looked up stand in ascending order. -/
def Ordered (tree : FileTree) : Prop :=
  ∀ path entries, found path tree = some (.directory entries) →
    (entries.Pairwise fun a b => a.1 < b.1) ∧ ∀ entry ∈ entries, FitsName entry.1

namespace Ordered

theorem file (contents : Bytes) : Ordered (.file contents) := by
  intro path entries there
  cases path with
  | nil => cases there
  | cons name path =>
    rw [found_cons_file] at there
    cases there

theorem empty : Ordered empty := by
  intro path entries there
  cases path with
  | nil =>
    cases there
    exact ⟨.nil, nofun⟩
  | cons name path =>
    rw [found_empty (List.cons_ne_nil name path)] at there
    cases there

theorem below {below : FileTree} (ordered : Ordered (.directory entries)) (fits : FitsName name)
    (there : entries.lookup name = some below) : Ordered below := by
  intro path inner found
  apply ordered (name :: path) inner
  rwa [found_cons_of_lookup fits there]

/-- Writing an entry keeps a directory in order. -/
theorem insertEntry (ordered : Ordered (.directory entries)) (fits : FitsName name)
    (orderedNew : Ordered new) : Ordered (.directory (SortedMap.insertEntry name new entries)) := by
  obtain ⟨ascending, names⟩ := ordered [] entries rfl
  intro path inner there
  cases path with
  | nil =>
    cases there
    refine ⟨SortedMap.ascending_insertEntry name new ascending, fun entry member => ?_⟩
    rcases SortedMap.mem_insertEntry member with rfl | before
    · exact fits
    · exact names entry before
  | cons first others =>
    by_cases same : first = name
    · subst same
      rw [found_cons_insertEntry fits] at there
      exact orderedNew others inner there
    · rw [found_cons_insertEntry_of_ne same] at there
      exact ordered (first :: others) inner there

theorem makeDirectories (ordered : Ordered tree) (ran : makeDirectories path tree = .ok after) :
    Ordered after := by
  induction path generalizing tree after with
  | nil =>
    obtain ⟨entries, rfl, rfl⟩ := makeDirectories_nil_eq_ok ran
    exact ordered
  | cons name rest ih =>
    obtain ⟨entries, new, rfl, fits, rfl, made⟩ := makeDirectories_cons_eq_ok ran
    refine ordered.insertEntry fits (ih ?_ made)
    cases there : entries.lookup name with
    | none => exact empty
    | some below => exact ordered.below fits there

theorem update {contents : Bytes} (writes : Writes change contents) (ordered : Ordered tree)
    (ran : update change path tree = .ok after) : Ordered after := by
  induction path generalizing tree after with
  | nil => cases tree <;> cases ran
  | cons name rest ih =>
    obtain ⟨entries, new, rfl, fits, rfl, deeper⟩ := update_cons_eq_ok ran
    apply ordered.insertEntry fits
    rcases deeper with ⟨-, changed⟩ | ⟨old, there, updated⟩
    · rw [writes.file changed]
      exact file contents
    · exact ih (ordered.below fits there) updated

end Ordered

/-! ## The operations -/

/-- What is neither on the way to a path nor below it is the same in two trees. -/
def SameOutside (path : Path) (before after : FileTree) : Prop :=
  ∀ other, ¬ other <+: path → ¬ path <+: other → found other after = found other before

namespace SameOutside

variable {before middle : FileTree}

protected theorem refl : SameOutside path tree tree := fun _ _ _ => rfl

protected theorem trans (first : SameOutside path before middle)
    (second : SameOutside path middle after) : SameOutside path before after := by
  intro other above below
  exact (second other above below).trans (first other above below)

/-- What happens further down happens below. -/
theorem of_append {rest : Path} (same : SameOutside (path ++ rest) before after) :
    SameOutside path before after := by
  intro other above below
  apply same other
  · intro within
    rcases List.prefix_or_prefix_of_prefix within (List.prefix_append path rest) with up | down
    · exact above up
    · exact below down
  · intro deeper
    exact below ((List.prefix_append path rest).trans deeper)

end SameOutside

theorem checkNames_eq_ok_iff : checkNames path = .ok () ↔ ∀ name ∈ path, '\x00' ∉ name.toList := by
  rw [checkNames]
  split
  · next zero => simpa using zero
  · next clean => simpa using clean

theorem checkNames_append : checkNames (path ++ other) = .ok () ↔
    checkNames path = .ok () ∧ checkNames other = .ok () := by
  simp only [checkNames_eq_ok_iff, List.forall_mem_append]

variable {contents : Bytes}

theorem find_of_found (there : found path tree = some new) : find path tree = .ok new := by
  cases walked : find path tree with
  | error error =>
    rw [found, walked] at there
    cases there
  | ok below =>
    rw [found, walked] at there
    cases there
    rfl

theorem read_eq_ok_iff : read path tree = .ok contents ↔
    checkNames path = .ok () ∧ found path tree = some (.file contents) := by
  simp only [read, lookUp, bind_eq_ok_iff]
  constructor
  · rintro ⟨there, ⟨⟨⟩, named, walked⟩, ended⟩
    cases there with
    | file contents =>
      cases ended
      exact ⟨named, found_of_find walked⟩
    | directory entries => cases ended
  · rintro ⟨named, there⟩
    exact ⟨.file contents, ⟨(), named, find_of_found there⟩, rfl⟩

theorem size_of_read (ran : read path tree = .ok contents) :
    size path tree = .ok contents.length := by
  obtain ⟨there, looked, ended⟩ := bind_eq_ok_iff.mp ran
  cases there with
  | directory entries => cases ended
  | file contents =>
    cases ended
    rw [size, looked]
    rfl

/-- Nothing has a size where nothing is. -/
theorem size_of_found_none (missing : found path tree = none) :
    ∃ error, size path tree = .error error := by
  rw [size, lookUp]
  cases checkNames path with
  | error error => exact ⟨error, rfl⟩
  | ok _ =>
    cases walked : find path tree with
    | error error => exact ⟨error, rfl⟩
    | ok below =>
      rw [found_of_find walked] at missing
      cases missing

/-- Nothing is read where nothing is. -/
theorem read_of_found_none (missing : found path tree = none) :
    ∃ error, read path tree = .error error := by
  cases ran : read path tree with
  | error error => exact ⟨error, rfl⟩
  | ok contents =>
    rw [(read_eq_ok_iff.mp ran).2] at missing
    cases missing

theorem createDirectories_eq_ok (ran : createDirectories path tree = .ok after) :
    checkNames path = .ok () ∧ makeDirectories path tree = .ok after := by
  obtain ⟨⟨⟩, named, made⟩ := bind_eq_ok_iff.mp ran
  exact ⟨named, made⟩

theorem sameOutside_createFile (ran : createFile path contents tree = .ok after) :
    SameOutside path tree after := by
  obtain ⟨⟨⟩, -, updated⟩ := bind_eq_ok_iff.mp ran
  intro other above below
  exact found_update updated above below

theorem sameOutside_replaceFile (ran : replaceFile path contents tree = .ok after) :
    SameOutside path tree after := by
  obtain ⟨⟨⟩, -, updated⟩ := bind_eq_ok_iff.mp ran
  intro other above below
  exact found_update updated above below

theorem createFile_eq_ok (ran : createFile path contents tree = .ok after) :
    ∃ change, Writes change contents ∧ update change path tree = .ok after := by
  obtain ⟨⟨⟩, -, updated⟩ := bind_eq_ok_iff.mp ran
  refine ⟨_, ⟨?_, ?_⟩, updated⟩
  · rintro (_ | old) new changed
    · cases changed
      rfl
    · cases changed
  · rintro entries new changed
    cases changed

theorem replaceFile_eq_ok (ran : replaceFile path contents tree = .ok after) :
    ∃ change, Writes change contents ∧ update change path tree = .ok after := by
  obtain ⟨⟨⟩, -, updated⟩ := bind_eq_ok_iff.mp ran
  refine ⟨_, ⟨?_, ?_⟩, updated⟩
  · rintro (_ | _ | _) new changed
    · cases changed
      rfl
    · cases changed
      rfl
    · cases changed
  · rintro entries new changed
    cases changed

/-- What is below a path is in directories. -/
theorem directory_of_found_append (there : found (path ++ name :: other) tree = some new) :
    ∃ entries, find path tree = .ok (.directory entries) := by
  rw [found, find_append] at there
  cases walked : find path tree with
  | error error =>
    rw [walked] at there
    cases there
  | ok below =>
    rw [walked] at there
    cases below with
    | file contents => cases there
    | directory entries => exact ⟨entries, rfl⟩

theorem subdirectories_of_find (here : find path tree = .ok (.directory entries))
    (named : checkNames path = .ok ()) : ∃ names, subdirectories path tree = .ok names := by
  rw [subdirectories, lookUp, named]
  simp only [bind, Except.bind, here]
  exact ⟨_, rfl⟩

/-- Nothing can be listed below the top of a tree without files. -/
theorem subdirectories_empty {names : List String} (below : path ≠ []) :
    subdirectories path empty ≠ .ok names := by
  intro ran
  obtain ⟨there, looked, -⟩ := bind_eq_ok_iff.mp ran
  obtain ⟨⟨⟩, -, here⟩ := bind_eq_ok_iff.mp looked
  cases (found_empty below).symm.trans (found_of_find here)

/-- The names of directories are those that directories are found under. -/
theorem mem_subdirectories_iff {names : List String} (ordered : Ordered tree)
    (ran : subdirectories path tree = .ok names) :
    name ∈ names ↔ ∃ entries, found (path ++ [name]) tree = some (.directory entries) := by
  obtain ⟨there, looked, ended⟩ := bind_eq_ok_iff.mp ran
  obtain ⟨⟨⟩, -, here⟩ := bind_eq_ok_iff.mp looked
  cases there with
  | file contents => cases ended
  | directory entries =>
    cases ended
    obtain ⟨ascending, fit⟩ := ordered path entries (found_of_find here)
    simp only [List.mem_mergeSort, List.mem_map, List.mem_filter]
    constructor
    · rintro ⟨⟨name, below⟩, ⟨member, directory⟩, rfl⟩
      cases below with
      | file contents => cases directory
      | directory inner =>
        refine ⟨inner, ?_⟩
        rw [found_snoc here (fit _ member)]
        exact SortedMap.lookup_eq_some_of_mem ascending member
    · rintro ⟨inner, there⟩
      have below := find_of_found there
      rw [find_append, here] at below
      obtain ⟨_, _, ⟨⟩, -, looked, ⟨⟩⟩ := find_cons_eq_ok_iff.mp below
      exact ⟨(name, .directory inner), ⟨SortedMap.mem_of_lookup_eq_some looked, rfl⟩, rfl⟩

section Directory

variable (here : find dir tree = .ok (.directory entries)) (fits : FitsName name)
  (named : checkNames (dir ++ [name]) = .ok ())

include here fits named

theorem size_snoc_of_none (vacant : entries.lookup name = none) :
    size (dir ++ [name]) tree = .error .notFound := by
  rw [size, lookUp, named, find_snoc here fits, vacant]
  rfl

theorem read_snoc_of_some (there : entries.lookup name = some (.file contents)) :
    read (dir ++ [name]) tree = .ok contents := by
  rw [read_eq_ok_iff, found_snoc here fits]
  exact ⟨named, there⟩

theorem read_snoc_of_none (vacant : entries.lookup name = none) :
    read (dir ++ [name]) tree = .error .notFound := by
  rw [read, lookUp, named, find_snoc here fits, vacant]
  rfl

theorem createFile_snoc_of_none (vacant : entries.lookup name = none) (contents : Bytes) :
    ∃ after, createFile (dir ++ [name]) contents tree = .ok after ∧
      find dir after = .ok (.directory (SortedMap.insertEntry name (.file contents) entries)) := by
  rw [createFile, named]
  exact update_snoc_of_ok here fits (by rw [vacant])

theorem createFile_snoc_of_some {old : FileTree} (taken : entries.lookup name = some old)
    (contents : Bytes) :
    createFile (dir ++ [name]) contents tree = .error .alreadyExists := by
  rw [createFile, named]
  exact update_snoc_of_error here fits (by rw [taken])

theorem replaceFile_snoc_of_none (vacant : entries.lookup name = none) (contents : Bytes) :
    ∃ after, replaceFile (dir ++ [name]) contents tree = .ok after ∧
      find dir after = .ok (.directory (SortedMap.insertEntry name (.file contents) entries)) := by
  rw [replaceFile, named]
  exact update_snoc_of_ok here fits (by rw [vacant])

theorem replaceFile_snoc_of_file {old : Bytes} (there : entries.lookup name = some (.file old))
    (contents : Bytes) :
    ∃ after, replaceFile (dir ++ [name]) contents tree = .ok after ∧
      find dir after = .ok (.directory (SortedMap.insertEntry name (.file contents) entries)) := by
  rw [replaceFile, named]
  exact update_snoc_of_ok here fits (by rw [there])

end Directory

end ArtifactRegistry.FileTree
