import ArtifactRegistry.Proofs.Digest
import ArtifactRegistry.Proofs.Outcome
import ArtifactRegistry.Storage.FileTree
import ArtifactRegistry.Storage.LinkPath

/-! # Links stay where links live

A link path vouches for the repository's name and for the subject's digest. Neither can take back a
name before it, so the path leads into the directory of repositories and on to a place that no other
subject and no other repository has, even when the name of a repository is made to look like the rest
of a link path: `referrersLinkPath_confined`, and `eq_of_ofText_eq` for places.
-/

namespace ArtifactRegistry

namespace Text

/-- A name is told by its parts. -/
theorem splitAll_injective (separator : Char) : Function.Injective (splitAll separator) := by
  intro text text' same
  have parts_eq : text.toList.splitOn separator = text'.toList.splitOn separator :=
    List.map_injective_iff.mpr (fun _ _ => String.ofList_inj.mp) same
  have joined := congrArg (List.intercalate [separator]) parts_eq
  rw [List.intercalate_splitOn, List.intercalate_splitOn] at joined
  exact String.toList_inj.mp joined

theorem splitAll_slash (before after : String) :
    splitAll '/' (before ++ "/" ++ after) = splitAll '/' before ++ splitAll '/' after := by
  have joined : (before ++ "/" ++ after).toList = before.toList ++ '/' :: after.toList := by
    rw [String.toList_append, String.toList_append, List.append_assoc]
    rfl
  rw [splitAll, joined, List.splitOn_append_cons_self, List.map_append, splitAll, splitAll]

end Text

namespace FileTree.Path

/-- Names that take none back are added to those before them. -/
theorem foldl_of_no_dots {names : List String} (named : ".." ∉ names) (before : List String) :
    (names.foldl (fun names name =>
      if name = "" ∨ name = "." then names
      else if name = ".." then names.drop 1
      else name :: names) before).reverse =
    before.reverse ++ names.filter fun name => ¬ (name = "" ∨ name = ".") := by
  induction names generalizing before with
  | nil => simp
  | cons name rest ih =>
    obtain ⟨different, others⟩ : ".." ≠ name ∧ ".." ∉ rest := by simpa using named
    rw [List.foldl_cons, ih others]
    by_cases skipped : name = "" ∨ name = "."
    · rw [if_pos skipped, List.filter_cons_of_neg]
      intro kept
      exact decide_eq_true_iff.mp kept skipped
    · rw [if_neg skipped, if_neg (Ne.symm different), List.reverse_cons, List.append_assoc,
        List.filter_cons_of_pos]
      · rfl
      · exact decide_eq_true_iff.mpr skipped

theorem ofText_of_no_dots {text : String} (named : ".." ∉ Text.splitAll '/' text) :
    ofText text = (Text.splitAll '/' text).filter fun name => ¬ (name = "" ∨ name = ".") :=
  foldl_of_no_dots named []

/-- Behind a directory, a text that takes no names back leads to a place in the directory. -/
theorem ofText_slash {text : String} (named : ".." ∉ Text.splitAll '/' text) (directory : String) :
    ofText (directory ++ "/" ++ text) = ofText directory ++ ofText text := by
  rw [ofText, Text.splitAll_slash, List.foldl_append, foldl_of_no_dots named,
    ofText_of_no_dots named, ofText]

/-- A text leads further down from wherever it is read: it does not start at the top, and takes no name
back. -/
def LeadsDown (text : String) : Prop := text.toList.head? ≠ some '/' ∧ ".." ∉ Text.splitAll '/' text

/-- Every part of a text is a name that leads one level further down. -/
def IsPlain (text : String) : Prop :=
  ∀ name ∈ Text.splitAll '/' text, name ≠ "" ∧ name ≠ "." ∧ name ≠ ".."

instance (text : String) : Decidable (LeadsDown text) := inferInstanceAs (Decidable (_ ∧ _))

instance (text : String) : Decidable (IsPlain text) :=
  inferInstanceAs (Decidable (∀ name ∈ Text.splitAll '/' text, _))

theorem IsPlain.no_dots {text : String} (plain : IsPlain text) : ".." ∉ Text.splitAll '/' text :=
  fun dots => (plain ".." dots).2.2 rfl

theorem IsPlain.ofText_eq {text : String} (plain : IsPlain text) :
    ofText text = Text.splitAll '/' text := by
  rw [ofText_of_no_dots plain.no_dots, List.filter_eq_self]
  intro name member
  obtain ⟨notEmpty, notDot, -⟩ := plain name member
  simp [notEmpty, notDot]

/-- Plain texts that lead to the same place are the same. -/
theorem IsPlain.eq_of_ofText_eq {text text' : String} (plain : IsPlain text)
    (plain' : IsPlain text') (same : ofText text = ofText text') : text = text' := by
  rw [plain.ofText_eq, plain'.ofText_eq] at same
  exact Text.splitAll_injective '/' same

end FileTree.Path

/-- What a link path consists of, and what it vouches for. -/
theorem referrersLinkPath_eq_ok {repository path : String} {subject : Digest}
    (derived : referrersLinkPath repository subject = .ok path) :
    validRepositoryName repository = true ∧ ∃ algorithm, subject.validate = .ok algorithm ∧
      path.toList = "repositories".toList ++ '/' :: (repository.toList ++ '/' ::
        ("_refs".toList ++ '/' :: ("subjects".toList ++ '/' ::
          (algorithm.name.toList ++ '/' :: subject.hex.toList)))) := by
  obtain ⟨root, rooted, derived⟩ := bind_eq_ok_iff.mp derived
  obtain ⟨algorithm, validates, derived⟩ := bind_eq_ok_iff.mp derived
  rw [referrersRoot] at rooted
  split at rooted
  · next named =>
    cases rooted
    cases derived
    refine ⟨named, algorithm, mapError_eq_ok_iff.mp validates, ?_⟩
    simp only [toString, String.toList_append, List.append_assoc]
    rfl
  · cases rooted

theorem referrersLinkPath_of_valid {repository : String} {subject : Digest}
    (named : validRepositoryName repository = true) (valid : subject.IsValid) :
    ∃ path, referrersLinkPath repository subject = .ok path := by
  obtain ⟨algorithm, validates⟩ := valid
  simp only [referrersLinkPath, referrersRoot, named, validates]
  exact ⟨_, rfl⟩

section Parts

variable {repository path : String} {subject : Digest}
  (derived : referrersLinkPath repository subject = .ok path)

include derived

/-- A link path can be taken apart. -/
theorem splitAll_referrersLinkPath : ∃ algorithm, subject.validate = .ok algorithm ∧
    Text.splitAll '/' path = "repositories" :: (Text.splitAll '/' repository ++
      ["_refs", "subjects", algorithm.name, subject.hex]) := by
  obtain ⟨-, algorithm, validates, path_eq⟩ := referrersLinkPath_eq_ok derived
  obtain ⟨-, lower⟩ := Digest.validate_eq_ok validates
  refine ⟨algorithm, validates, ?_⟩
  have noSlash : '/' ∉ subject.hex.toList := by
    intro member
    exact absurd (lower _ member) (by decide)
  rw [Text.splitAll, path_eq]
  rw [List.splitOn_append_cons_self_of_not_mem (by decide), List.splitOn_append_cons_self,
    List.splitOn_append_cons_self_of_not_mem (by decide),
    List.splitOn_append_cons_self_of_not_mem (by decide),
    List.splitOn_append_cons_self_of_not_mem (by cases algorithm <;> decide),
    List.splitOn_eq_singleton noSlash]
  simp [Text.splitAll]

/-- No part of a link path is skipped or takes another one back. -/
theorem isPlain_of_derived : FileTree.Path.IsPlain path := by
  intro name member
  obtain ⟨named, -⟩ := referrersLinkPath_eq_ok derived
  obtain ⟨algorithm, validates, parts⟩ := splitAll_referrersLinkPath derived
  obtain ⟨-, lower⟩ := Digest.validate_eq_ok validates
  have noDot (name : String) (dot : '.' ∈ name.toList) : subject.hex ≠ name := by
    rintro rfl
    exact absurd (lower '.' dot) (by decide)
  have notEmpty : subject.hex ≠ "" := by
    intro empty
    have size := Digest.utf8ByteSize_hex validates
    rw [empty] at size
    cases algorithm <;> cases size
  have components : ∀ name ∈ Text.splitAll '/' repository,
      name ≠ "" ∧ name ≠ "." ∧ name ≠ ".." := by
    simpa [validRepositoryName, and_assoc] using named
  rw [parts] at member
  revert name
  simp only [List.forall_mem_cons, List.forall_mem_append, List.not_mem_nil, false_implies,
    implies_true, and_true]
  exact ⟨by decide, components, by decide, by decide, by cases algorithm <;> decide, notEmpty,
    noDot "." (by decide), noDot ".." (by decide)⟩

/-- The names on the way to the links of a subject. -/
theorem ofText_referrersLinkPath : ∃ algorithm, subject.validate = .ok algorithm ∧
    FileTree.Path.ofText path = "repositories" :: (Text.splitAll '/' repository ++
      ["_refs", "subjects", algorithm.name, subject.hex]) := by
  rw [(isPlain_of_derived derived).ofText_eq]
  exact splitAll_referrersLinkPath derived

end Parts

/-- In a repository, every subject has a place of its own. -/
theorem eq_of_ofText_eq {repository path path' : String} {subject subject' : Digest}
    (derived : referrersLinkPath repository subject = .ok path)
    (derived' : referrersLinkPath repository subject' = .ok path')
    (same : FileTree.Path.ofText path = FileTree.Path.ofText path') : subject = subject' := by
  obtain ⟨algorithm, validates, names⟩ := ofText_referrersLinkPath derived
  obtain ⟨algorithm', validates', names'⟩ := ofText_referrersLinkPath derived'
  rw [names, names'] at same
  simp only [List.cons.injEq, List.append_cancel_left_eq, and_true, true_and] at same
  exact Digest.eq_of_parts validates validates' same.1 same.2

/-- No two repositories share a link path. -/
theorem repository_eq_of_derived {repository other path : String} {subject about : Digest}
    (derived : referrersLinkPath repository subject = .ok path)
    (derived' : referrersLinkPath other about = .ok path) : repository = other := by
  obtain ⟨_, -, names⟩ := ofText_referrersLinkPath derived
  obtain ⟨_, -, names'⟩ := ofText_referrersLinkPath derived'
  rw [names, List.cons.injEq] at names'
  exact Text.splitAll_injective '/' (List.append_inj' names'.2 rfl).1

/-- A link path belongs to one repository and one subject. It starts in the directory of repositories
and ends with the algorithm and the digits of the subject, and behind whatever directory it is put,
each of its parts leads one level further down. -/
theorem referrersLinkPath_confined {repository path : String} {subject : Digest}
    (derived : referrersLinkPath repository subject = .ok path) :
    (∀ other about, referrersLinkPath other about = .ok path →
      other = repository ∧ about = subject) ∧
    (∃ algorithm, subject.validate = .ok algorithm ∧
      Text.splitAll '/' path = "repositories" :: (Text.splitAll '/' repository ++
        ["_refs", "subjects", algorithm.name, subject.hex])) ∧
    (∀ name ∈ Text.splitAll '/' path, name ≠ "" ∧ name ≠ "." ∧ name ≠ "..") ∧
    ∀ root : String, FileTree.Path.ofText (root ++ "/" ++ path) =
      FileTree.Path.ofText root ++ Text.splitAll '/' path := by
  have plain := isPlain_of_derived derived
  refine ⟨?_, splitAll_referrersLinkPath derived, plain, ?_⟩
  · intro other about derived'
    obtain rfl := repository_eq_of_derived derived derived'
    exact ⟨rfl, eq_of_ofText_eq derived' derived rfl⟩
  · intro root
    rw [FileTree.Path.ofText_slash plain.no_dots, plain.ofText_eq]

/-- A repository that is called like a part of a link path. -/
theorem referrersLinkPath_confined_lookalike : ∃ path,
    referrersLinkPath "app/_refs/subjects/sha256" (Digest.ofBytes []) = .ok path ∧
    (∀ other about, referrersLinkPath other about = .ok path →
      other = "app/_refs/subjects/sha256" ∧ about = Digest.ofBytes []) ∧
    FileTree.Path.ofText ("/data" ++ "/" ++ path) =
      FileTree.Path.ofText "/data" ++ Text.splitAll '/' path := by
  obtain ⟨path, derived⟩ := referrersLinkPath_of_valid
    (show validRepositoryName "app/_refs/subjects/sha256" = true by decide +kernel)
    (Digest.isValid_ofBytes [])
  obtain ⟨alone, -, -, below⟩ := referrersLinkPath_confined derived
  exact ⟨path, derived, alone, below "/data"⟩

end ArtifactRegistry
