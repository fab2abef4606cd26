import ArtifactRegistry.Proofs.Action
import ArtifactRegistry.Proofs.Digest
import ArtifactRegistry.Proofs.Outcome
import ArtifactRegistry.Proofs.SortedMap
import ArtifactRegistry.Referrers.Closure
import Mathlib.Data.List.Sort

/-! # The worklist reaches everything

`Referrers.extendMarks` takes subjects from a queue and marks their referrers. Two facts carry it
through the loop: a marked digest is still in the queue or has all its referrers marked (`Pending`),
and every subject that is taken is paid for by a linked digest that was not marked before
(`unmarked`). `Underway` holds both, and each kind of step keeps it. So the bound on the number of steps
is never what ends the loop: a listing fails, or in the end every marked digest has all its referrers
marked (`Closes`). Nothing else is marked than what was among the subjects from the start or is listed
for one of them (`ListsAmong`).
-/

namespace ArtifactRegistry

open ArtifactRegistry.Action

namespace MarkSet

variable {marks : MarkSet} {digest other : Digest}

theorem mem_iff_contains : digest ∈ marks ↔ marks.contains digest = true := Iff.rfl

@[simp] theorem mem_insert : other ∈ marks.insert digest ↔ other = digest ∨ other ∈ marks := by
  simp only [mem_iff_contains, contains, insert, SortedMap.contains, SortedMap.get?_insert,
    Digest.text_inj]
  by_cases same : other = digest <;> simp [same]

@[simp] theorem mem_toList : digest ∈ marks.toList ↔ digest ∈ marks := by
  rw [mem_iff_contains, contains, ← SortedMap.mem_keys_iff, toList, List.mem_map]
  constructor
  · rintro ⟨text, member, rfl⟩
    exact member
  · intro member
    exact ⟨digest.text, member, rfl⟩

@[simp] theorem length_toList : marks.toList.length = marks.size := by
  simp [toList, size, SortedMap.keys, SortedMap.size]

/-- Marks are told apart by their members. -/
theorem eq_of_mem_iff {marks' : MarkSet} (same : ∀ digest, digest ∈ marks ↔ digest ∈ marks') :
    marks = marks' := by
  have keys_iff (text : String) : text ∈ marks.members.keys ↔ text ∈ marks'.members.keys := by
    rw [SortedMap.mem_keys_iff, SortedMap.mem_keys_iff]
    exact same ⟨text⟩
  have keys_eq : marks.members.keys = marks'.members.keys :=
    marks.members.ascending_keys.eq_of_mem_iff marks'.members.ascending_keys keys_iff
  have entries_eq (map : SortedMap Unit) : map.entries = map.keys.map fun key => (key, ()) := by
    rw [SortedMap.keys, List.map_map]
    exact (List.map_id map.entries).symm
  have members_eq : marks.members = marks'.members := by
    apply SortedMap.ext
    rw [entries_eq, entries_eq, keys_eq]
  exact congrArg MarkSet.mk members_eq

/-- How many items of a list are not marked. -/
def unmarked (marks : MarkSet) (digests : List Digest) : Nat :=
  digests.countP fun digest => !marks.contains digest

theorem unmarked_le_length (marks : MarkSet) (digests : List Digest) :
    marks.unmarked digests ≤ digests.length :=
  List.countP_le_length

/-- Marking one more item leaves fewer to mark. -/
theorem unmarked_insert_lt {digests : List Digest} (member : digest ∈ digests)
    (new : digest ∉ marks) : (marks.insert digest).unmarked digests < marks.unmarked digests := by
  have fewer (part : List Digest) : (marks.insert digest).unmarked part ≤ marks.unmarked part := by
    apply List.countP_mono_left
    intro item _ unseen
    simp only [Bool.not_eq_true', Bool.eq_false_iff, ne_eq, ← mem_iff_contains, mem_insert,
      not_or] at unseen ⊢
    exact unseen.2
  have gone : (marks.insert digest).contains digest = true := mem_insert.mpr (.inl rfl)
  obtain ⟨before, after, rfl⟩ := List.append_of_mem member
  have first := fewer before
  have last := fewer after
  simp only [unmarked] at first last
  simp only [unmarked, List.countP_append, List.countP_cons, gone,
    Bool.eq_false_iff.mpr (mt mem_iff_contains.mpr new)]
  simp only [Bool.not_true, Bool.not_false, Bool.false_eq_true, if_true, if_false]
  omega

end MarkSet

namespace Referrers

variable {σ : Type} {repository : String} {token : Token}

/-- What marking some referrers does: `added` are those that were not marked before. -/
structure Marked (marks : MarkSet) (referrers : List Digest) (marked : MarkSet)
    (added : List Digest) : Prop where
  mem_iff (digest : Digest) : digest ∈ marked ↔ digest ∈ marks ∨ digest ∈ referrers
  mem_added {digest : Digest} : digest ∈ marked → digest ∈ marks ∨ digest ∈ added
  added_subset : added ⊆ referrers
  paid {linked : List Digest} : referrers ⊆ linked →
    added.length + marked.unmarked linked ≤ marks.unmarked linked

namespace Marked

variable {marks marked : MarkSet} {referrer : Digest} {rest added : List Digest}

protected theorem nil (marks : MarkSet) : Marked marks [] marks [] where
  mem_iff digest := by simp
  mem_added := .inl
  added_subset := List.Subset.refl []
  paid _ := by simp

/-- A referrer that is marked already changes nothing. -/
theorem cons_of_mem (seen : referrer ∈ marks) (result : Marked marks rest marked added) :
    Marked marks (referrer :: rest) marked added := by
  constructor
  · intro digest
    rw [result.mem_iff, List.mem_cons]
    constructor
    · exact Or.imp_right .inr
    · rintro (there | rfl | there)
      · exact .inl there
      · exact .inl seen
      · exact .inr there
  · exact result.mem_added
  · exact List.subset_cons_of_subset referrer result.added_subset
  · intro linked inside
    exact result.paid (List.cons_subset.mp inside).2

/-- A new referrer is paid for by itself. -/
theorem cons_of_new (new : referrer ∉ marks)
    (result : Marked (marks.insert referrer) rest marked added) :
    Marked marks (referrer :: rest) marked (referrer :: added) := by
  constructor
  · intro digest
    rw [result.mem_iff, MarkSet.mem_insert, List.mem_cons, or_assoc, or_left_comm]
  · intro digest there
    have known := result.mem_added there
    rwa [MarkSet.mem_insert, or_assoc, or_left_comm, ← List.mem_cons] at known
  · exact List.cons_subset_cons referrer result.added_subset
  · intro linked inside
    obtain ⟨member, others⟩ := List.cons_subset.mp inside
    have fewer := MarkSet.unmarked_insert_lt member new
    have paid := result.paid others
    rw [List.length_cons]
    omega

end Marked

/-- Marking succeeds and writes nothing but records. -/
theorem markAll_answers (store : σ) (repository : String) (subject : Digest)
    (referrers : List Digest) (marks : MarkSet) :
    ∃ marked added, Marked marks referrers marked added ∧
      Answers store (markAll repository subject referrers marks) (.ok (marked, added)) := by
  induction referrers generalizing marks with
  | nil => exact ⟨marks, [], .nil marks, .pure _⟩
  | cons referrer rest ih =>
    cases seen : marks.contains referrer with
    | true =>
      obtain ⟨marked, added, result, answers⟩ := ih marks
      refine ⟨marked, added, result.cons_of_mem seen, ?_⟩
      simpa only [markAll, seen, if_true] using answers
    | false =>
      have new : referrer ∉ marks := by
        rw [MarkSet.mem_iff_contains, seen]
        exact Bool.false_ne_true
      obtain ⟨marked, added, result, answers⟩ := ih (marks.insert referrer)
      refine ⟨marked, referrer :: added, result.cons_of_new new, ?_⟩
      simp only [markAll, seen, Bool.false_eq_true, if_false]
      exact (Answers.record _ _ _).bind_ok (answers.bind_ok (.pure _))

/-! ## The loop -/

variable [Backend σ]

/-- With nothing in the way, listing a valid subject of `store` answers with `members`. -/
def Lists (store : σ) (repository : String) (token : Token) (members : Digest → List Digest) :
    Prop :=
  ∀ world : World σ, world.store = store → world.interference = .none →
    ∀ subject : Digest, subject.IsValid → ∃ after,
      (digests repository token subject).runIn world = (.ok (members subject), after) ∧
      after.store = store ∧ after.interference = .none

/-- Subjects that list each other: with nothing in the way, listing a valid one answers with `listing`,
and what is listed is among the subjects. -/
structure ListsAmong (store : σ) (repository : String) (token : Token)
    (listing : Digest → Except ReferrersError (List Digest)) (subjects : Set Digest) : Prop where
  answers {subject : Digest} (among : subject ∈ subjects) (valid : subject.IsValid) :
    Answers store (digests repository token subject) (listing subject)
  closed {subject referrer : Digest} {members : List Digest} (among : subject ∈ subjects)
    (valid : subject.IsValid) (listed : listing subject = .ok members)
    (member : referrer ∈ members) : referrer ∈ subjects

/-- The listing of a subject succeeds, and all that is listed is marked. -/
def Settled (listing : Digest → Except ReferrersError (List Digest)) (marks : MarkSet)
    (subject : Digest) : Prop :=
  ∃ members, listing subject = .ok members ∧ ∀ referrer ∈ members, referrer ∈ marks

/-- Marked digests are settled, but for those in a queue. -/
def Pending (listing : Digest → Except ReferrersError (List Digest)) (queue : List Digest)
    (marks : MarkSet) : Prop :=
  ∀ digest ∈ marks, digest.IsValid → digest ∈ queue ∨ Settled listing marks digest

/-- Listing some valid subject fails, and an operation fails with the same error. -/
def FailsAt (store : σ) (listing : Digest → Except ReferrersError (List Digest))
    (subjects : Set Digest) (action : Action σ ReferrersError MarkSet) : Prop :=
  ∃ subject ∈ subjects, subject.IsValid ∧ ∃ error, listing subject = .error error ∧
    Answers store action (.error error)

variable {listing : Digest → Except ReferrersError (List Digest)} {members : Digest → List Digest}
  {queue : List Digest} {marks : MarkSet} {subject : Digest}

/-- A malformed digest need not wait. -/
theorem Pending.skip (pending : Pending listing (subject :: queue) marks)
    (malformed : ¬ subject.IsValid) : Pending listing queue marks := by
  intro digest marked valid
  rcases pending digest marked valid with waiting | settled
  · rcases List.mem_cons.mp waiting with rfl | waiting
    · exact (malformed valid).elim
    · exact .inl waiting
  · exact .inr settled

/-- Once its referrers are marked, a subject need not wait; they wait in its place. -/
theorem Pending.take {marked : MarkSet} {members added : List Digest}
    (pending : Pending listing (subject :: queue) marks) (listed : listing subject = .ok members)
    (result : Marked marks members marked added) : Pending listing (queue ++ added) marked := by
  intro digest there valid
  rcases result.mem_added there with before | new
  · rcases pending digest before valid with waiting | ⟨others, listed', all⟩
    · rcases List.mem_cons.mp waiting with rfl | waiting
      · refine .inr ⟨members, listed, fun referrer member => ?_⟩
        exact (result.mem_iff referrer).mpr (.inr member)
      · exact .inl (List.mem_append_left _ waiting)
    · refine .inr ⟨others, listed', fun referrer member => ?_⟩
      exact (result.mem_iff referrer).mpr (.inl (all referrer member))
  · exact .inl (List.mem_append_right _ new)

/-- Where nothing waits, all marks are settled. -/
theorem Pending.settled (pending : Pending listing [] marks) :
    ∀ digest ∈ marks, digest.IsValid → Settled listing marks digest := by
  intro digest there valid
  exact (pending digest there valid).resolve_left List.not_mem_nil

/-- What holds whenever the loop goes on: there are steps left for all that waits and all that may still
be marked, only subjects wait or are marked, and marked digests wait or are settled. -/
structure Underway (listing : Digest → Except ReferrersError (List Digest)) (subjects : Set Digest)
    (linked : List Digest) (bound : Nat) (queue : List Digest) (marks : MarkSet) : Prop where
  enough : queue.length + marks.unmarked linked < bound
  queued : ∀ digest ∈ queue, digest ∈ subjects
  marked : ∀ digest ∈ marks, digest ∈ subjects
  pending : Pending listing queue marks

namespace Underway

variable {subjects : Set Digest} {linked : List Digest} {bound : Nat}

/-- In the beginning, all marks wait. -/
theorem start (enough : marks.size + linked.length < bound)
    (marked : ∀ digest ∈ marks, digest ∈ subjects) :
    Underway listing subjects linked bound marks.toList marks where
  enough := by
    have fewer := marks.unmarked_le_length linked
    rw [MarkSet.length_toList]
    omega
  queued digest waiting := marked digest (MarkSet.mem_toList.mp waiting)
  marked := marked
  pending digest there _ := .inl (MarkSet.mem_toList.mpr there)

/-- A step that passes over a malformed digest. -/
theorem skip (underway : Underway listing subjects linked (bound + 1) (subject :: queue) marks)
    (malformed : ¬ subject.IsValid) : Underway listing subjects linked bound queue marks where
  enough := by
    have enough := underway.enough
    rw [List.length_cons] at enough
    omega
  queued := (List.forall_mem_cons.mp underway.queued).2
  marked := underway.marked
  pending := underway.pending.skip malformed

/-- A step that marks what is listed for a subject. It is paid for by the subject and the new marks. -/
theorem take {marked : MarkSet} {members added : List Digest}
    (underway : Underway listing subjects linked (bound + 1) (subject :: queue) marks)
    (among : ∀ member ∈ members, member ∈ subjects) (counted : members ⊆ linked)
    (listed : listing subject = .ok members) (result : Marked marks members marked added) :
    Underway listing subjects linked bound (queue ++ added) marked where
  enough := by
    have enough := underway.enough
    have paid := result.paid counted
    rw [List.length_cons] at enough
    rw [List.length_append]
    omega
  queued := by
    have queued := (List.forall_mem_cons.mp underway.queued).2
    exact List.forall_mem_append.mpr ⟨queued, fun digest new => among digest (result.added_subset new)⟩
  marked := by
    intro digest there
    rcases (result.mem_iff digest).mp there with before | new
    · exact underway.marked digest before
    · exact among digest new
  pending := underway.pending.take listed result

end Underway

/-- An operation on marks fails with the error of a listing, or it keeps the marks, marks the referrers
of all that is marked, and marks nothing but subjects. -/
def Closes (store : σ) (listing : Digest → Except ReferrersError (List Digest))
    (subjects : Set Digest) (marks : MarkSet) (action : Action σ ReferrersError MarkSet) : Prop :=
  FailsAt store listing subjects action ∨
    ∃ extended, Answers store action (.ok extended) ∧
      (∀ digest ∈ marks, digest ∈ extended) ∧ (∀ digest ∈ extended, digest ∈ subjects) ∧
      ∀ digest ∈ extended, digest.IsValid → Settled listing extended digest

namespace Closes

variable {α : Type} {store : σ} {subjects : Set Digest}

omit [Backend σ] in
/-- What comes first does not matter, as long as it succeeds. -/
theorem bind_ok {first : Action σ ReferrersError α} {value : α}
    {next : α → Action σ ReferrersError MarkSet} (ran : Answers store first (.ok value))
    (closes : Closes store listing subjects marks (next value)) :
    Closes store listing subjects marks (first >>= next) := by
  obtain ⟨culprit, among, valid, error, fails, ends⟩ | ⟨extended, ends, closed⟩ := closes
  · exact .inl ⟨culprit, among, valid, error, fails, ran.bind_ok ends⟩
  · exact .inr ⟨extended, ran.bind_ok ends, closed⟩

omit [Backend σ] in
/-- What keeps more marks keeps some of them. -/
theorem of_more {more : MarkSet} {action : Action σ ReferrersError MarkSet}
    (grown : ∀ digest ∈ marks, digest ∈ more) (closes : Closes store listing subjects more action) :
    Closes store listing subjects marks action := by
  obtain fails | ⟨extended, ends, kept, closed⟩ := closes
  · exact .inl fails
  · exact .inr ⟨extended, ends, fun digest there => kept digest (grown digest there), closed⟩

end Closes

/-- The loop never ends for want of steps: it fails with the error of a listing, or its queue is empty in
the end and all marks are settled. -/
theorem extendFrom_closes {store : σ} {linked : List Digest} {subjects : Set Digest}
    (lists : ListsAmong store repository token listing subjects)
    (counted : ∀ subject ∈ subjects, subject.IsValid → ∀ members, listing subject = .ok members →
      members ⊆ linked) {bound : Nat}
    (underway : Underway listing subjects linked bound queue marks) :
    Closes store listing subjects marks (extendFrom repository token bound queue marks) := by
  induction bound generalizing queue marks with
  | zero => exact absurd underway.enough (Nat.not_lt_zero _)
  | succ bound ih =>
    cases queue with
    | nil =>
      exact .inr ⟨marks, .pure marks, fun _ there => there, underway.marked, underway.pending.settled⟩
    | cons subject queue =>
      have live : Answers store (withErrors ReferrersError.ofStorage (ensureLive token)) (.ok ()) :=
        (Answers.ensureLive token).withErrors _
      simp only [extendFrom]
      apply Closes.bind_ok live
      cases validated : subject.validate with
      | error reason =>
        have malformed : ¬ subject.IsValid := by
          rintro ⟨algorithm, validates⟩
          cases validated.symm.trans validates
        exact ih (underway.skip malformed)
      | ok algorithm =>
        have valid : subject.IsValid := ⟨algorithm, validated⟩
        have among : subject ∈ subjects := underway.queued subject List.mem_cons_self
        have looked := lists.answers among valid
        cases listed : listing subject with
        | error error =>
          rw [listed] at looked
          exact .inl ⟨subject, among, valid, error, listed, looked.bind_error⟩
        | ok members =>
          rw [listed] at looked
          apply Closes.bind_ok looked
          obtain ⟨more, added, result, answers⟩ :=
            markAll_answers store repository subject members marks
          apply Closes.bind_ok answers
          have inside : ∀ member ∈ members, member ∈ subjects :=
            fun member => lists.closed among valid listed
          have next := underway.take inside (counted subject among valid members listed) listed result
          exact (ih next).of_more fun digest there => (result.mem_iff digest).mpr (.inl there)

section Marks

variable {store : σ} {linked : List Digest} {subjects : Set Digest} (marks : MarkSet)

/-- From marks among subjects that list each other, the loop closes the marks, or a listing fails. -/
theorem extendFrom_among (lists : ListsAmong store repository token listing subjects)
    (counted : ∀ subject ∈ subjects, subject.IsValid → ∀ members, listing subject = .ok members →
      members ⊆ linked) (bounded : linked.length ≤ Backend.linkBound store)
    (marked : ∀ digest ∈ marks, digest ∈ subjects) {bound : Nat}
    (enough : marks.size + Backend.linkBound store < bound) :
    Closes store listing subjects marks (extendFrom repository token bound marks.toList marks) :=
  extendFrom_closes lists counted (.start (by omega) marked)

/-- When the listings of subjects that list each other succeed, the loop does. -/
theorem extendFrom_of_listed
    (lists : ListsAmong store repository token (fun subject => .ok (members subject)) subjects)
    (counted : ∀ subject ∈ subjects, subject.IsValid → members subject ⊆ linked)
    (bounded : linked.length ≤ Backend.linkBound store)
    (marked : ∀ digest ∈ marks, digest ∈ subjects) {bound : Nat}
    (enough : marks.size + Backend.linkBound store < bound) :
    ∃ extended,
      Answers store (extendFrom repository token bound marks.toList marks) (.ok extended) ∧
      (∀ digest ∈ marks, digest ∈ extended) ∧ (∀ digest ∈ extended, digest ∈ subjects) ∧
      ∀ digest ∈ extended, digest.IsValid → ∀ referrer ∈ members digest, referrer ∈ extended := by
  have counts (subject : Digest) (among : subject ∈ subjects) (valid : subject.IsValid)
      (found : List Digest) (listed : Except.ok (ε := ReferrersError) (members subject) = .ok found) :
      found ⊆ linked := by
    cases listed
    exact counted subject among valid
  obtain ⟨_, _, _, error, fails, _⟩ | ⟨extended, ends, grown, among, closed⟩ :=
    extendFrom_among marks lists counts bounded marked enough
  · cases fails
  · refine ⟨extended, ends, grown, among, ?_⟩
    intro digest there valid
    obtain ⟨_, ⟨⟩, settled⟩ := closed digest there valid
    exact settled

/-- Extending marks is the loop with a bound that the store sets. -/
theorem extendMarks_answers {extended : MarkSet}
    (ends : Answers store (extendFrom repository token
      (marks.size + Backend.linkBound store + 1) marks.toList marks) (.ok extended)) :
    Answers store (extendMarks marks repository token) (.ok extended) := by
  rintro world rfl calm
  obtain ⟨after, ran, same, calm⟩ := ends world rfl calm
  simp only [extendMarks, runIn_bind, runIn_get, ran, runIn_record, runIn_pure]
  exact ⟨_, rfl, same, calm⟩

theorem extendMarks_fails {error : ReferrersError}
    (ends : Answers store (extendFrom repository token
      (marks.size + Backend.linkBound store + 1) marks.toList marks) (.error error)) :
    Answers store (extendMarks marks repository token) (.error error) := by
  rintro world rfl calm
  obtain ⟨after, ran, same, calm⟩ := ends world rfl calm
  simp only [extendMarks, runIn_bind, runIn_get, ran]
  exact ⟨_, rfl, same, calm⟩

/-- Extending marks succeeds, keeps the marks, and marks the referrers of all that is marked. -/
theorem extendMarks_closes (lists : Lists store repository token members)
    (inside : ∀ subject, members subject ⊆ linked)
    (bounded : linked.length ≤ Backend.linkBound store) {world : World σ}
    (store_eq : world.store = store) (calm : world.interference = .none) :
    ∃ extended after, (extendMarks marks repository token).runIn world = (.ok extended, after) ∧
      (∀ digest ∈ marks, digest ∈ extended) ∧
      ∀ digest ∈ extended, digest.IsValid → ∀ referrer ∈ members digest, referrer ∈ extended := by
  have everywhere :
      ListsAmong store repository token (fun subject => .ok (members subject)) Set.univ := by
    constructor
    · intro subject _ valid world same calm
      exact lists world same calm subject valid
    · exact fun _ _ _ _ => trivial
  obtain ⟨extended, ends, grown, -, closed⟩ :=
    extendFrom_of_listed marks everywhere (fun subject _ _ => inside subject) bounded
      (fun _ _ => trivial) (Nat.lt_succ_self _)
  obtain ⟨after, ran, -⟩ := extendMarks_answers marks ends world store_eq calm
  exact ⟨extended, after, ran, grown, closed⟩

end Marks

end Referrers

end ArtifactRegistry
