import ArtifactRegistry.Proofs.Referrers.Closure
import ArtifactRegistry.Proofs.Referrers.Listing
import ArtifactRegistry.Proofs.Storage.Listings
import Mathlib.Logic.Relation
import Mathlib.Order.Bounds.Defs

/-! # Extending marks computes a closure

The link sets of a repository make its digests a graph: from every valid digest, a step leads to each
member of its link set. Whatever the store holds, extending marks ends with exactly what can be reached
from the marks, as long as the listings on the way succeed: the smallest set with the marks in it that
no step leaves. Cycles, digests that are linked to themselves, and members that are no valid digests
make no difference.
-/

namespace ArtifactRegistry

open ArtifactRegistry.Action

namespace Referrers

variable {σ : Type} [Backend σ] {store : σ} {repository : String} {token : Token}
  {marks : MarkSet} {subject referrer : Digest}

/-- A digest is a member of the link set of a subject. Only valid digests have a link set. -/
def LinkedTo (store : σ) (repository : String) (subject referrer : Digest) : Prop :=
  ∃ path, referrersLinkPath repository subject = .ok path ∧ HasLink store path referrer

/-- What can be reached from marks along links. -/
def Reached (store : σ) (repository : String) (marks : MarkSet) : Set Digest :=
  {digest | ∃ mark ∈ marks, Relation.ReflTransGen (LinkedTo store repository) mark digest}

/-- The sets that hold the marks and, of every valid digest in them, the members of its link set. -/
def Closures (store : σ) (repository : String) (marks : MarkSet) : Set (Set Digest) :=
  {kept | (∀ mark ∈ marks, mark ∈ kept) ∧ ∀ subject ∈ kept, subject.IsValid →
    ∀ referrer, LinkedTo store repository subject referrer → referrer ∈ kept}

/-- Marked digests are reached. -/
theorem reached_of_mem (marked : subject ∈ marks) : subject ∈ Reached store repository marks :=
  ⟨subject, marked, .refl⟩

/-- No link leads out of what is reached. -/
theorem reached_of_linkedTo (reached : subject ∈ Reached store repository marks)
    (linked : LinkedTo store repository subject referrer) :
    referrer ∈ Reached store repository marks := by
  obtain ⟨mark, marked, chain⟩ := reached
  exact ⟨mark, marked, chain.tail linked⟩

/-- Marks that are reached reach nothing new. -/
theorem reached_subset {others : MarkSet}
    (from_marks : ∀ mark ∈ others, mark ∈ Reached store repository marks) :
    Reached store repository others ⊆ Reached store repository marks := by
  rintro digest ⟨mark, marked, chain⟩
  induction chain with
  | refl => exact from_marks mark marked
  | tail _ linked reached => exact reached_of_linkedTo reached linked

/-- A linked subject is valid. -/
theorem LinkedTo.valid (linked : LinkedTo store repository subject referrer) : subject.IsValid := by
  obtain ⟨path, derived, -⟩ := linked
  obtain ⟨-, algorithm, validates, -⟩ := referrersLinkPath_eq_ok derived
  exact ⟨algorithm, validates⟩

/-- What is reached is the smallest set that holds the marks and that no link leaves. -/
theorem isLeast_reached : IsLeast (Closures store repository marks)
    (Reached store repository marks) := by
  refine ⟨⟨fun mark => reached_of_mem, fun subject reached _ referrer => ?_⟩, ?_⟩
  · exact reached_of_linkedTo reached
  · rintro kept ⟨marked, closed⟩ digest ⟨mark, there, chain⟩
    induction chain with
    | refl => exact marked mark there
    | tail _ linked ih => exact closed _ ih linked.valid _ linked

/-- The digests that are linked are those that the listing of the set shows. -/
theorem digests_answers_of_listed {path : String} {result : Except StorageError (List Digest)}
    (derived : referrersLinkPath repository subject = .ok path)
    (answers : Answers store (Store.listLinks token path) result) :
    Answers store (digests repository token subject) ((orEmpty result).mapError .ofStorage) := by
  simp only [digests, derived]
  refine answers.outcome.bind_ok ?_
  rcases result with error | members
  · cases error
    case pathNotFound => exact .pure []
    all_goals exact .throw _
  · exact .pure members

omit [Backend σ] in
/-- Without a path, there is no listing, whatever the store. -/
theorem digests_answers_of_refused {error : StorageError}
    (refused : referrersLinkPath repository subject = .error error) :
    ∃ reason, ∀ {σ : Type} [Backend σ] (store : σ),
      Answers store (digests repository token subject) (.error reason) := by
  simp only [digests, refused]
  cases error
  case invalidDigest source => exact ⟨_, fun _ => .throw _⟩
  all_goals exact ⟨_, fun _ => .throw _⟩

omit [Backend σ] in
/-- A digest that is malformed cannot be listed. -/
theorem digests_answers_of_invalid (repository : String) (token : Token)
    (malformed : ¬ subject.IsValid) : ∃ reason, ∀ {σ : Type} [Backend σ] (store : σ),
      Answers store (digests repository token subject) (.error reason) := by
  cases derived : referrersLinkPath repository subject with
  | error error => exact digests_answers_of_refused derived
  | ok path =>
    obtain ⟨-, algorithm, validates, -⟩ := referrersLinkPath_eq_ok derived
    exact absurd ⟨algorithm, validates⟩ malformed

section Listing

variable [ListingBackend σ]

/-- With nothing in the way, the listing of a subject has an answer. -/
theorem exists_digests_answer (store : σ) (repository : String) (token : Token) (subject : Digest) :
    ∃ result, Answers store (digests repository token subject) result := by
  cases derived : referrersLinkPath repository subject with
  | error error =>
    obtain ⟨reason, refused⟩ := digests_answers_of_refused derived
    exact ⟨_, refused store⟩
  | ok path =>
    obtain ⟨result, listed⟩ := ListingBackend.listLinks_answers store path
    exact ⟨_, digests_answers_of_listed derived (listed token)⟩

/-- A listing of a subject shows its link set. -/
theorem linkedTo_iff_of_answers {members : List Digest}
    (answers : Answers store (digests repository token subject) (.ok members)) :
    LinkedTo store repository subject referrer ↔ referrer ∈ members := by
  cases derived : referrersLinkPath repository subject with
  | error error =>
    obtain ⟨reason, refused⟩ := digests_answers_of_refused derived
    cases answers.unique (refused store)
  | ok path =>
    have linked_iff : LinkedTo store repository subject referrer ↔ HasLink store path referrer := by
      constructor
      · rintro ⟨path', derived', has⟩
        cases derived.symm.trans derived'
        exact has
      · exact fun has => ⟨path, derived, has⟩
    rw [linked_iff]
    obtain ⟨result, listed⟩ := ListingBackend.listLinks_answers store path
    have shown := answers.unique (digests_answers_of_listed derived (listed token))
    cases result with
    | ok linked =>
      cases shown
      exact hasLink_of_answers (listed token)
    | error error =>
      cases error
      case pathNotFound missing =>
        cases shown
        constructor
        · intro has
          obtain ⟨_, found, _⟩ := has token
          cases found.unique (listed token)
        · exact nofun
      all_goals cases shown

/-- The subjects that are reached list each other, so the loop ends with what is reached. -/
theorem extendFrom_reaches
    (listed : ∀ subject ∈ Reached store repository marks, subject.IsValid →
      ∃ members, Answers store (digests repository token subject) (.ok members))
    {bound : Nat} (enough : marks.size + Backend.linkBound store < bound) :
    ∃ extended : MarkSet,
      Answers store (extendFrom repository token bound marks.toList marks) (.ok extended) ∧
      ∀ digest, digest ∈ extended ↔ digest ∈ Reached store repository marks := by
  choose! members answers using listed
  have linkedTo_iff {subject referrer : Digest}
      (reached : subject ∈ Reached store repository marks) (valid : subject.IsValid) :
      LinkedTo store repository subject referrer ↔ referrer ∈ members subject :=
    linkedTo_iff_of_answers (answers subject reached valid)
  have lists : ListsAmong store repository token (fun subject => .ok (members subject))
      (Reached store repository marks) := by
    refine ⟨fun reached valid => answers _ reached valid, ?_⟩
    rintro subject referrer _ reached valid ⟨⟩ member
    exact reached_of_linkedTo reached ((linkedTo_iff reached valid).mpr member)
  obtain ⟨linked, bounded, counts⟩ := ListingBackend.counts_links store
  have counted : ∀ subject ∈ Reached store repository marks, subject.IsValid →
      members subject ⊆ linked := by
    intro subject reached valid referrer member
    obtain ⟨path, -, has⟩ := (linkedTo_iff reached valid).mpr member
    exact counts path referrer has
  obtain ⟨extended, ends, grown, among, closed⟩ :=
    extendFrom_of_listed marks lists counted bounded (fun _ => reached_of_mem) enough
  refine ⟨extended, ends, fun digest => ⟨among digest, ?_⟩⟩
  rintro ⟨mark, marked, chain⟩
  induction chain with
  | refl => exact grown mark marked
  | @tail subject referrer _ linked there =>
    have member := (linkedTo_iff (among subject there) linked.valid).mp linked
    exact closed subject there linked.valid referrer member

/-- Extending marks fails like the listing of a subject that is reached, or all those listings
succeed. -/
theorem extendMarks_fails_or_listed (store : σ) (repository : String) (token : Token)
    (marks : MarkSet) :
    (∃ subject : Digest, subject.IsValid ∧ ∃ error,
        Answers store (digests repository token subject) (.error error) ∧
        Answers store (extendMarks marks repository token) (.error error)) ∨
      ∀ subject ∈ Reached store repository marks, subject.IsValid →
        ∃ members, Answers store (digests repository token subject) (.ok members) := by
  choose listing answers using exists_digests_answer store repository token
  have linkedTo_iff {subject referrer : Digest} {members : List Digest}
      (listed : listing subject = .ok members) :
      LinkedTo store repository subject referrer ↔ referrer ∈ members :=
    linkedTo_iff_of_answers (listed ▸ answers subject)
  have lists : ListsAmong store repository token listing (Reached store repository marks) := by
    refine ⟨fun _ _ => answers _, fun reached _ listed member => ?_⟩
    exact reached_of_linkedTo reached ((linkedTo_iff listed).mpr member)
  obtain ⟨linked, bounded, counts⟩ := ListingBackend.counts_links store
  have counted : ∀ subject ∈ Reached store repository marks, subject.IsValid →
      ∀ members, listing subject = .ok members → members ⊆ linked := by
    intro subject _ _ members listed referrer member
    obtain ⟨path, -, has⟩ := (linkedTo_iff listed).mpr member
    exact counts path referrer has
  rcases extendFrom_among marks lists counted bounded (fun _ => reached_of_mem)
    (Nat.lt_succ_self _) with ⟨subject, -, valid, error, fails, ends⟩ | ⟨extended, -, grown, -, closed⟩
  · exact .inl ⟨subject, valid, error, fails ▸ answers subject, extendMarks_fails marks ends⟩
  · right
    rintro subject ⟨mark, marked, chain⟩ valid
    suffices there : subject ∈ extended by
      obtain ⟨members, listed, -⟩ := closed subject there valid
      exact ⟨members, listed ▸ answers subject⟩
    clear valid
    induction chain with
    | refl => exact grown mark marked
    | @tail subject referrer _ linked there =>
      obtain ⟨members, listed, settled⟩ := closed subject there linked.valid
      exact settled referrer ((linkedTo_iff listed).mp linked)

end Listing

end Referrers

open Referrers

/-- Whatever a store holds, and whatever is marked: when the listings of all valid digests that can be
reached from the marks succeed, extending the marks ends with exactly what can be reached, the smallest
set that holds the marks and the link sets of its valid members. Extending once more changes nothing,
from fewer marks no more is reached, and the loop ends by itself: under any larger bound on its steps
the result is the same. -/
theorem extendMarks_closure {σ : Type} [Backend σ] [ListingBackend σ] {store : σ}
    {repository : String} {token : Token} {marks : MarkSet}
    (listed : ∀ subject ∈ Reached store repository marks, subject.IsValid →
      ∃ members, Answers store (digests repository token subject) (.ok members)) :
    ∃ extended : MarkSet,
      Answers store (extendMarks marks repository token) (.ok extended) ∧
      IsLeast (Closures store repository marks) {digest | digest ∈ extended} ∧
      (∀ digest, digest ∈ extended ↔ digest ∈ Reached store repository marks) ∧
      Answers store (extendMarks extended repository token) (.ok extended) ∧
      (∀ fewer : MarkSet, (∀ mark ∈ fewer, mark ∈ marks) → ∃ smaller : MarkSet,
        Answers store (extendMarks fewer repository token) (.ok smaller) ∧
        ∀ digest ∈ smaller, digest ∈ extended) ∧
      ∀ bound, marks.size + Backend.linkBound store < bound →
        Answers store (extendFrom repository token bound marks.toList marks) (.ok extended) := by
  obtain ⟨extended, ends, reached_iff⟩ := extendFrom_reaches listed (Nat.lt_succ_self _)
  refine ⟨extended, extendMarks_answers marks ends, ?_, reached_iff, ?_, ?_, ?_⟩
  · have same : {digest | digest ∈ extended} = Reached store repository marks :=
      Set.ext reached_iff
    rw [same]
    exact isLeast_reached
  · have inside : Reached store repository extended ⊆ Reached store repository marks :=
      reached_subset fun mark there => (reached_iff mark).mp there
    obtain ⟨again, ends', reached_iff'⟩ :=
      extendFrom_reaches (fun subject reached => listed subject (inside reached))
        (Nat.lt_succ_self _)
    have same : again = extended := by
      apply MarkSet.eq_of_mem_iff
      intro digest
      rw [reached_iff']
      constructor
      · exact fun reached => (reached_iff digest).mpr (inside reached)
      · exact reached_of_mem
    rw [same] at ends'
    exact extendMarks_answers extended ends'
  · intro fewer subset
    have inside : Reached store repository fewer ⊆ Reached store repository marks :=
      reached_subset fun mark there => reached_of_mem (subset mark there)
    obtain ⟨smaller, ends', reached_iff'⟩ :=
      extendFrom_reaches (fun subject reached => listed subject (inside reached))
        (Nat.lt_succ_self _)
    refine ⟨smaller, extendMarks_answers fewer ends', fun digest there => ?_⟩
    exact (reached_iff digest).mpr (inside ((reached_iff' digest).mp there))
  · intro bound enough
    obtain ⟨longer, ends', reached_iff'⟩ := extendFrom_reaches listed enough
    have same : longer = extended :=
      MarkSet.eq_of_mem_iff fun digest => (reached_iff' digest).trans (reached_iff digest).symm
    rwa [same] at ends'

/-! ## A cycle in memory -/

namespace MemoryStore

variable {store : MemoryStore} {repository path : String} {token : Token} {subject referrer : Digest}

/-- In memory, links lead to the members of sets. -/
theorem linkedTo_iff (derived : referrersLinkPath repository subject = .ok path) :
    LinkedTo store repository subject referrer ↔ referrer ∈ store.members path := by
  constructor
  · rintro ⟨other, derived', has⟩
    cases derived.symm.trans derived'
    exact (hasLink_iff trivial derived).mp has
  · intro member
    exact ⟨path, derived, (hasLink_iff trivial derived).mpr member⟩

/-- In memory, every listing in a repository with a valid name succeeds. -/
theorem digests_listed (named : validRepositoryName repository = true) (valid : subject.IsValid) :
    ∃ members, Answers store (digests repository token subject) (.ok members) := by
  obtain ⟨path, derived⟩ := referrersLinkPath_of_valid named valid
  exact ⟨_, digests_answers token store derived⟩

end MemoryStore

/-- A subject is linked to itself and to a text that is no digest. Extending the mark of the subject
ends with the two of them. -/
theorem extendMarks_closure_of_cycle :
    ∃ (store : MemoryStore) (subject malformed : Digest) (extended : MarkSet),
      LinkedTo store "library" subject subject ∧ ¬ malformed.IsValid ∧
      Answers store (extendMarks (.ofList [subject]) "library" .callers) (.ok extended) ∧
      ∀ digest, digest ∈ extended ↔ digest = subject ∨ digest = malformed := by
  obtain ⟨subject, valid⟩ : ∃ subject : Digest, subject.IsValid := ⟨_, Digest.isValid_ofBytes []⟩
  have named : validRepositoryName "library" = true := by decide +kernel
  obtain ⟨path, derived⟩ := referrersLinkPath_of_valid named valid
  let malformed : Digest := ⟨"bogus"⟩
  have invalid : ¬ malformed.IsValid := by
    rintro ⟨algorithm, validates⟩
    have refused : malformed.validate = .error (.missingAlgorithm "bogus") := by decide +kernel
    rw [refused] at validates
    cases validates
  let store : MemoryStore := (({} : MemoryStore).addLink path subject).addLink path malformed
  have linked_iff (digest : Digest) :
      LinkedTo store "library" subject digest ↔ digest = subject ∨ digest = malformed := by
    have nothing : ({} : MemoryStore).members path = [] := rfl
    rw [MemoryStore.linkedTo_iff derived, MemoryStore.mem_members_addLink,
      MemoryStore.mem_members_addLink, nothing]
    simp
  obtain ⟨extended, ends, -, reached_iff, -⟩ :=
    extendMarks_closure fun _ _ valid => MemoryStore.digests_listed named valid
  refine ⟨store, subject, malformed, extended, (linked_iff subject).mpr (.inl rfl), invalid, ends,
    fun digest => (reached_iff digest).trans ⟨?_, ?_⟩⟩
  · rintro ⟨mark, marked, chain⟩
    have mark_eq : mark = subject := by
      have nothing : mark ∉ (⟨∅⟩ : MarkSet) := Bool.false_ne_true
      exact (MarkSet.mem_insert.mp marked).resolve_right nothing
    induction chain with
    | refl => exact .inl mark_eq
    | tail _ linked ih =>
      -- Only the subject has links; the other mark is no digest.
      rcases ih with rfl | rfl
      · exact (linked_iff _).mp linked
      · exact (invalid linked.valid).elim
  · intro member
    have start : subject ∈ Reached store "library" (.ofList [subject]) :=
      reached_of_mem (MarkSet.mem_insert.mpr (.inl rfl))
    exact reached_of_linkedTo start ((linked_iff digest).mpr member)

end ArtifactRegistry
