import ArtifactRegistry.Proofs.Storage.FileView
import ArtifactRegistry.Proofs.Storage.FileLinks

/-! # Places of links

The name of a repository may have slashes, so the directory of one repository can be inside the
directory of another. `linkPlaces` has all places where a repository looks for link files. They are
none of another repository's, and on no way to one, `not_prefix_linkPlace` and its companions, unless
the name of one repository leads through a link file of the other: `LeadsThrough`.
-/

namespace ArtifactRegistry

/-- A start that ends with an item does not reach into a part without the item. -/
theorem snoc_prefix_of_not_mem {α : Type} {front first second : List α} {last : α}
    (within : front ++ [last] <+: first ++ second) (absent : last ∉ second) :
    front ++ [last] <+: first := by
  rcases List.prefix_or_prefix_of_prefix within (List.prefix_append first second) with
    inside | ⟨rest, longer⟩
  · exact inside
  · rcases List.eq_nil_or_concat rest with rfl | ⟨rest, name, rfl⟩
    · rw [List.append_nil] at longer
      exact longer ▸ List.prefix_rfl
    · rw [List.concat_eq_append, ← List.append_assoc] at longer
      obtain ⟨-, same⟩ := List.append_inj' longer rfl
      cases same
      rw [← longer, List.append_assoc] at within
      have inside := ((List.prefix_append_right_inj first).mp within).subset
        (List.mem_append_right rest (List.mem_singleton_self last))
      exact absurd inside absent

namespace FileStore

open FileTree

/-- The names of a link file below the directory of its repository. -/
def linkTail (algorithm : Algorithm) (subject : String) (below : Algorithm) (member : String) :
    FileTree.Path :=
  ["_refs", "subjects", algorithm.name, subject, below.name, member, linkFile]

/-- The name of a repository leads through what could be a link file of another one. -/
def LeadsThrough (outer inner : String) : Prop :=
  ∃ subject algorithm below member, Digest.validate subject = .ok algorithm ∧
    Text.splitAll '/' outer ++ linkTail algorithm subject.hex below member <+:
      Text.splitAll '/' inner

/-- The places where a repository looks for link files. -/
def linkPlaces (root repository : String) : Set FileTree.Path :=
  {place | ∃ subject algorithm below member, Digest.validate subject = .ok algorithm ∧
    place = FileTree.Path.ofText root ++ ("repositories" :: (Text.splitAll '/' repository ++
      linkTail algorithm subject.hex below member))}

/-- Names that are made of hexadecimal digits. -/
theorem hex_ne {digest : Digest} {algorithm : Algorithm} (validates : digest.validate = .ok algorithm)
    {name : String} {c : Char} (member : c ∈ name.toList) (other : Digest.isLowerHex c = false) :
    digest.hex ≠ name := by
  rintro rfl
  rw [(Digest.validate_eq_ok validates).2 c member] at other
  cases other

theorem hex_ne_linkFile {digest : Digest} {algorithm : Algorithm}
    (validates : digest.validate = .ok algorithm) : digest.hex ≠ linkFile :=
  hex_ne (c := 'l') validates (by decide) (by decide)

theorem hex_ne_name {digest : Digest} {algorithm : Algorithm}
    (validates : digest.validate = .ok algorithm) (below : Algorithm) : digest.hex ≠ below.name :=
  hex_ne (c := 's') validates (by cases below <;> decide) (by decide)

theorem name_ne_linkFile (algorithm : Algorithm) : algorithm.name ≠ linkFile := by
  cases algorithm <;> decide

section Places

variable {root repository other : String} {place place' directory : FileTree.Path}

/-- All link files of a repository are equally deep. -/
theorem length_of_mem_linkPlaces (watched : place ∈ linkPlaces root repository) :
    place.length = (FileTree.Path.ofText root).length + (Text.splitAll '/' repository).length + 8 := by
  obtain ⟨_, _, _, _, -, rfl⟩ := watched
  simp [linkTail]
  omega

/-- Places of one repository are not inside of one another. -/
theorem eq_of_prefix_of_mem_linkPlaces (watched : place ∈ linkPlaces root repository)
    (watched' : place' ∈ linkPlaces root repository) (within : place <+: place') : place = place' :=
  within.eq_of_length
    ((length_of_mem_linkPlaces watched).trans (length_of_mem_linkPlaces watched').symm)

/-- The directory of a link, and the place of its file. -/
theorem LinkDirectory.snoc_mem_linkPlaces {member : Digest}
    (link : LinkDirectory repository directory member) :
    FileTree.Path.ofText root ++ directory ++ [linkFile] ∈ linkPlaces root repository := by
  obtain ⟨subject, path, derived, named⟩ := link
  obtain ⟨algorithm, validates, path_eq⟩ := ofText_referrersLinkPath derived
  obtain ⟨below, -, rfl⟩ := linkNames_eq_ok_iff.mp named
  refine ⟨subject, algorithm, below, member.hex, validates, ?_⟩
  rw [path_eq, linkTail]
  simp

variable {member : Digest} (link : LinkDirectory other directory member)
  (watched : place ∈ linkPlaces root repository)

include link watched

/-- The directory of another repository's link is not behind a link file. -/
theorem not_prefix_of_not_leadsThrough (free : ¬ LeadsThrough repository other) :
    ¬ place <+: FileTree.Path.ofText root ++ directory := by
  obtain ⟨subject, algorithm, below, name, validates, rfl⟩ := watched
  obtain ⟨about, path, derived, named⟩ := link
  obtain ⟨algorithm', validates', path_eq⟩ := ofText_referrersLinkPath derived
  obtain ⟨below', validatesMember, rfl⟩ := linkNames_eq_ok_iff.mp named
  intro within
  apply free
  refine ⟨subject, algorithm, below, name, validates, ?_⟩
  rw [path_eq, List.prefix_append_right_inj, List.cons_append, List.cons_prefix_cons] at within
  have inside : (Text.splitAll '/' repository ++
      ["_refs", "subjects", algorithm.name, subject.hex, below.name, name]) ++ [linkFile] <+:
      Text.splitAll '/' other ++
        ["_refs", "subjects", algorithm'.name, about.hex, below'.name, member.hex] := by
    simpa [linkTail] using within.2
  have absent : linkFile ∉
      ["_refs", "subjects", algorithm'.name, about.hex, below'.name, member.hex] := by
    simp only [List.mem_cons, List.not_mem_nil, or_false, not_or]
    exact ⟨by decide, by decide, (name_ne_linkFile _).symm, (hex_ne_linkFile validates').symm,
      (name_ne_linkFile _).symm, (hex_ne_linkFile validatesMember).symm⟩
  simpa [linkTail] using snoc_prefix_of_not_mem inside absent

/-- No link file is a link file of another repository. -/
theorem ne_of_other (differ : repository ≠ other) :
    place ≠ FileTree.Path.ofText root ++ directory ++ [linkFile] := by
  obtain ⟨subject, algorithm, below, name, -, rfl⟩ := watched
  obtain ⟨_, _, _, -, rfl⟩ := link.names_eq
  intro same
  apply differ
  apply Text.splitAll_injective '/'
  rw [List.append_assoc, List.append_cancel_left_eq, List.cons_append, List.cons.injEq] at same
  have names_eq : Text.splitAll '/' repository ++
      linkTail algorithm subject.hex below name = Text.splitAll '/' other ++ _ :=
    same.2.trans (List.append_assoc _ _ _)
  exact (List.append_inj' names_eq rfl).1

/-- No link file is in the way of a link file of another repository. -/
theorem not_prefix_file (differ : repository ≠ other) (free : ¬ LeadsThrough repository other) :
    ¬ place <+: FileTree.Path.ofText root ++ directory ++ [linkFile] := by
  rw [List.prefix_concat_iff]
  rintro (same | within)
  · exact ne_of_other link watched differ same
  · exact not_prefix_of_not_leadsThrough link watched free within

/-- No link file of another repository is in the way of a link file. -/
theorem file_not_prefix (differ : repository ≠ other) (free : ¬ LeadsThrough other repository) :
    ¬ FileTree.Path.ofText root ++ directory ++ [linkFile] <+: place := by
  have differs := ne_of_other link watched differ
  obtain ⟨subject, algorithm, below, name, validates, rfl⟩ := watched
  obtain ⟨about, path, derived, named⟩ := link
  obtain ⟨algorithm', validates', path_eq⟩ := ofText_referrersLinkPath derived
  obtain ⟨below', validatesMember, rfl⟩ := linkNames_eq_ok_iff.mp named
  intro within
  rw [path_eq] at within differs
  have inside : (Text.splitAll '/' other ++
      ["_refs", "subjects", algorithm'.name, about.hex, below'.name, member.hex]) ++ [linkFile] <+:
      (Text.splitAll '/' repository ++
        ["_refs", "subjects", algorithm.name, subject.hex, below.name, name]) ++ [linkFile] := by
    simpa [linkTail, List.prefix_append_right_inj] using within
  rcases List.prefix_concat_iff.mp inside with same | shorter
  · apply differs
    simpa [linkTail] using same.symm
  -- One level up, the last name is that of an algorithm, and no member is called so.
  have parts : Text.splitAll '/' repository ++
      ["_refs", "subjects", algorithm.name, subject.hex, below.name, name] =
      (Text.splitAll '/' repository ++
        ["_refs", "subjects", algorithm.name, subject.hex, below.name]) ++ [name] := by simp
  rw [parts, List.prefix_concat_iff] at shorter
  rcases shorter with same | shorter
  · have last : (Text.splitAll '/' other ++
        ["_refs", "subjects", algorithm'.name, about.hex, below'.name]) ++ [member.hex] =
        (Text.splitAll '/' repository ++ ["_refs", "subjects", algorithm.name, subject.hex]) ++
          [below.name] := by simpa using (List.append_inj' same rfl).1
    exact hex_ne_name validatesMember below (List.singleton_inj.mp (List.append_inj' last rfl).2)
  · have absent : linkFile ∉ ["_refs", "subjects", algorithm.name, subject.hex, below.name] := by
      simp only [List.mem_cons, List.not_mem_nil, or_false, not_or]
      exact ⟨by decide, by decide, (name_ne_linkFile _).symm, (hex_ne_linkFile validates).symm,
        (name_ne_linkFile _).symm⟩
    apply free
    refine ⟨about, algorithm', below', member.hex, validates', ?_⟩
    simpa [linkTail] using snoc_prefix_of_not_mem shorter absent

end Places

end FileStore

end ArtifactRegistry
