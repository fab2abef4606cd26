import ArtifactRegistry.Proofs.Referrers.Isolation
import ArtifactRegistry.Proofs.Storage.Mirror
import Mathlib.Data.Set.Function

/-! # One backend in place of the other

Clients put blobs and manifests, look manifests up, list referrers and extend marks, one step after the
other, through services of one repository. The same steps are taken on a store in memory and on a store
in files, both empty at first. As long as the medium does not fail, every step has the same answer on
both, `backends_interchangeable`: files hold what is in memory after every step, `Mirrors.step`, and
stores that hold the same answer the same. Listings may differ only in the order of entries that their
creation times do not tell apart, because files are listed by name and memory keeps the order of arrival.
-/

namespace ArtifactRegistry

open Manifest ArtifactRegistry.Action

/-! ## Failures of the medium -/

/-- Referrers cannot be listed because the medium has failed. -/
def ReferrersError.OfMedium (error : ReferrersError) : Prop :=
  ∃ source, error = .storage (.medium source)

instance : DecidablePred ReferrersError.OfMedium
  | .storage error =>
    decidable_of_iff error.OfMedium
      ⟨fun ⟨source, same⟩ => ⟨source, congrArg _ same⟩,
        fun ⟨source, same⟩ => ⟨source, ReferrersError.storage.inj same⟩⟩
  | .annotationParse _ _ _ | .invalidSubject _ | .options _ | .cancelled => .isFalse nofun

theorem ReferrersError.ofMedium_ofStorage {error : StorageError} (ofMedium : error.OfMedium) :
    (ReferrersError.ofStorage error).OfMedium := by
  obtain ⟨source, rfl⟩ := ofMedium
  exact ⟨source, rfl⟩

namespace Referrers

variable {σ τ : Type} [Backend σ] [Backend τ] {store : σ} {store' : τ}

/-! ## Entries -/

/-- What a linked digest is taken for, by what looking it up answers. -/
def artifactOf : Except StorageError Manifest → Except ReferrersError (Option Artifact)
  | .ok ⟨.artifact contents, _⟩ => .ok (some contents)
  | .ok _ => .ok none
  | .error (.unreadable _ _) => .ok none
  | .error (.manifestUnknown _) => .ok none
  | .error error => .error (.ofStorage error)

theorem findArtifact_answers {service : ManifestService} {token : Token} {referrer : Digest}
    {got : Except StorageError Manifest} (answers : Answers store (service.get token referrer) got) :
    Answers store (findArtifact service token referrer) (artifactOf got) := by
  refine answers.outcome.bind_ok ?_
  rcases got with error | ⟨variant, payload?⟩
  · cases error
    case unreadable => exact (Answers.record _ _ _).bind_ok (.pure none)
    case manifestUnknown => exact (Answers.record _ _ _).bind_ok (.pure none)
    all_goals exact .throw _
  · cases variant with
    | artifact contents => exact .pure (some contents)
    | image contents => exact (Answers.record _ _ _).bind_ok (.pure none)
    | index contents => exact (Answers.record _ _ _).bind_ok (.pure none)

theorem artifactOf_eq_some {got : Except StorageError Manifest} {contents : Artifact}
    (found : artifactOf got = .ok (some contents)) :
    ∃ payload?, got = .ok ⟨.artifact contents, payload?⟩ := by
  rcases got with error | ⟨variant, payload?⟩
  · cases error <;> cases found
  · cases variant with
    | artifact contents =>
      cases found
      exact ⟨payload?, rfl⟩
    | image contents => cases found
    | index contents => cases found

/-- An entry has the creation time that the stored artifact states. -/
def Dated (service : ManifestService) (token : Token) (store : σ) (entry : Entry) : Prop :=
  ∃ contents payload?,
    Answers store (service.get token entry.descriptor.digest) (.ok ⟨.artifact contents, payload?⟩) ∧
    createdAt entry.descriptor.digest contents = .ok entry.created

section Entries

variable (same : SameBlobs store store') (service : ManifestService) (token : Token)
  {referrer : Digest} (valid : referrer.IsValid)

include same valid

theorem findArtifact_matches :
    Matches store store' ReferrersError.OfMedium
      (fun found found' => found' = found ∧ ∀ contents, found = some contents → ∃ payload?,
        Answers store (service.get token referrer) (.ok ⟨.artifact contents, payload?⟩))
      (findArtifact service token referrer) (findArtifact service token referrer) := by
  obtain ⟨_, answers', ⟨_, rfl, source, rfl⟩ | ⟨got, answers, agrees⟩⟩ :=
    ManifestService.get_matches same valid token service
  · exact .of_lost (findArtifact_answers answers') ⟨source, rfl⟩
  · rw [← agrees.eq] at answers'
    refine .of_answers (findArtifact_answers answers) (findArtifact_answers answers') ?_
    cases taken : artifactOf got with
    | error error => exact .error error
    | ok found =>
      refine .ok ⟨rfl, ?_⟩
      rintro contents rfl
      obtain ⟨payload?, rfl⟩ := artifactOf_eq_some taken
      exact ⟨payload?, answers⟩

/-- On both stores, a linked digest has the same entry. -/
theorem findEntry_matches (artifactType : String) :
    Matches store store' ReferrersError.OfMedium
      (fun found found' => found' = found ∧
        ∀ entry, found = some entry → Dated service token store entry)
      (findEntry service token artifactType referrer)
      (findEntry service token artifactType referrer) := by
  apply Matches.bind_of_ok ((Answers.ensureLive token).withErrors _)
    ((Answers.ensureLive token).withErrors _)
  apply (findArtifact_matches same service token valid).bind
  rintro _ artifact ⟨rfl, kept⟩
  cases artifact with
  | none => exact .pure ⟨rfl, nofun⟩
  | some contents =>
  obtain ⟨payload?, answers⟩ := kept contents rfl
  cases passing : passes artifactType contents with
  | false =>
    simp only [passing]
    exact .pure ⟨rfl, nofun⟩
  | true =>
    simp only [passing, Bool.not_true, Bool.false_eq_true, if_false]
    have stated := (same.statBlob_matches valid token).withErrors
      fun _ => ReferrersError.ofMedium_ofStorage
    apply stated.bind
    rintro stored shown ⟨rfl, shownAs⟩
    cases dated : createdAt stored.digest contents with
    | error error => exact .throw _
    | ok created =>
      refine .pure ⟨by rw [shownAs.with_mediaType_eq], ?_⟩
      rintro _ ⟨⟩
      exact ⟨contents, payload?, answers, dated⟩

end Entries

/-! ## Listings -/

/-- Two listings fail, or they show the same entries and the same creation times in order: only
entries with the same time, or without one, may stand in another order. -/
inductive SameListing (service : ManifestService) (token : Token) (store : σ) :
    Except ReferrersError (List Descriptor) → Except ReferrersError (List Descriptor) → Prop
  | refused (error error' : ReferrersError) :
      SameListing service token store (.error error) (.error error')
  | listed {entries entries' : List Entry} (perm : entries'.Perm entries)
      (created_eq : entries'.map Entry.created = entries.map Entry.created)
      (dated : ∀ entry ∈ entries, Dated service token store entry) :
      SameListing service token store (.ok (entries.map Entry.descriptor))
        (.ok (entries'.map Entry.descriptor))

/-- Two stores hold the same in a repository, unless the medium of the second fails. The first answers
whatever is asked. -/
structure SameContents (repository : String) (store : σ) (store' : τ) : Prop where
  blobs : SameBlobs store store'
  own : SameBlobs store store
  listed {subject : Digest} (valid : subject.IsValid) (token : Token) : ∃ members,
    Answers store (digests repository token subject) (.ok members) ∧
      (∀ member ∈ members, member.IsValid) ∧
      ((∃ error, Answers store' (digests repository token subject) (.error error) ∧ error.OfMedium) ∨
        ∃ members', Answers store' (digests repository token subject) (.ok members') ∧
          members'.Perm members)

/-- Entries are those of the digests, in order, up to the first that is an error. -/
theorem entries_answers_mapM {service : ManifestService} {token : Token} {artifactType : String}
    {linked : List Digest} {answer : Digest → Except ReferrersError (Option Entry)}
    (each : ∀ referrer ∈ linked,
      Answers store (findEntry service token artifactType referrer) (answer referrer)) :
    Answers store (entries service token artifactType linked)
      ((linked.mapM answer).map fun found => found.flatMap Option.toList) := by
  induction linked with
  | nil => exact .pure []
  | cons referrer rest ih =>
    obtain ⟨first, others⟩ := List.forall_mem_cons.mp each
    rw [List.mapM_cons]
    cases head : answer referrer with
    | error error =>
      rw [head] at first
      exact first.bind_error
    | ok found =>
      rw [head] at first
      cases tail : rest.mapM answer with
      | error error =>
        have rest_fails := ih others
        rw [tail] at rest_fails
        exact first.bind_ok rest_fails.bind_error
      | ok listed =>
        have rest_answers := ih others
        rw [tail] at rest_answers
        exact first.bind_ok (rest_answers.bind_ok (.pure _))

section Enumerate

variable {service : ManifestService} {token : Token} {subject : Digest} {artifactType : String}

theorem enumerate_of_unlisted {error : ReferrersError}
    (fails : Answers store (digests service.repository token subject) (.error error)) :
    Answers store (enumerate service token subject artifactType) (.error error) :=
  (Answers.record _ _ _).bind_ok fails.bind_error

theorem enumerate_of_listed {linked : List Digest}
    {answer : Digest → Except ReferrersError (Option Entry)}
    (lists : Answers store (digests service.repository token subject) (.ok linked))
    (each : ∀ referrer ∈ linked,
      Answers store (findEntry service token artifactType referrer) (answer referrer)) :
    Answers store (enumerate service token subject artifactType)
      ((linked.mapM answer).map fun found => arrange (found.flatMap Option.toList)) := by
  have loaded := entries_answers_mapM each
  refine (Answers.record _ _ _).bind_ok (lists.bind_ok ?_)
  cases found : linked.mapM answer with
  | error error =>
    rw [found] at loaded
    exact loaded.bind_error
  | ok entries =>
    rw [found] at loaded
    exact loaded.bind_ok (.pure _)

/-- Listings of the same digests, in any order, fail on both stores or show the same. -/
theorem sameListing_of_entries {members members' : List Digest} (perm : members'.Perm members)
    {answer answer' : Digest → Except ReferrersError (Option Entry)}
    (alternatives : ∀ referrer ∈ members,
      Fails ReferrersError.OfMedium (answer' referrer) ∨ answer' referrer = answer referrer)
    (dated : ∀ referrer ∈ members, ∀ entry, answer referrer = .ok (some entry) →
      Dated service token store entry) :
    Fails ReferrersError.OfMedium (members'.mapM answer') ∨
      SameListing service token store
        ((members.mapM answer).map fun found => arrange (found.flatMap Option.toList))
        ((members'.mapM answer').map fun found => arrange (found.flatMap Option.toList)) := by
  cases found' : members'.mapM answer' with
  | error error =>
    obtain ⟨referrer, member, failed⟩ := exists_error_of_mapM found'
    have member := perm.mem_iff.mp member
    rcases alternatives referrer member with ⟨_, lost, ofMedium⟩ | same
    · cases failed.symm.trans lost
      exact .inl ⟨error, rfl, ofMedium⟩
    · right
      cases found : members.mapM answer with
      | error error' => exact .refused error' error
      | ok values =>
        obtain ⟨value, ran⟩ := exists_ok_of_mapM found member
        cases ran.symm.trans (same.symm.trans failed)
  | ok values' =>
    right
    have same : ∀ referrer ∈ members', answer' referrer = answer referrer := by
      intro referrer member
      rcases alternatives referrer (perm.mem_iff.mp member) with ⟨error, lost, -⟩ | same
      · obtain ⟨value, ran⟩ := exists_ok_of_mapM found' member
        cases ran.symm.trans lost
      · exact same
    rw [mapM_congr same] at found'
    obtain ⟨values, found, perm'⟩ := mapM_perm perm.symm found'
    have entries_perm : (values'.flatMap Option.toList).Perm (values.flatMap Option.toList) :=
      perm'.symm.flatMap_right Option.toList
    rw [found]
    simp only [Except.map, arrange_eq]
    refine .listed ?_ (created_ordered entries_perm) ?_
    · exact (perm_ordered _).trans (entries_perm.trans (perm_ordered _).symm)
    · intro entry shown
      obtain ⟨value, inside, present⟩ := List.mem_flatMap.mp ((perm_ordered _).mem_iff.mp shown)
      obtain ⟨referrer, member, ran⟩ := exists_of_mem_mapM found inside
      rw [Option.mem_toList] at present
      rw [present] at ran
      exact dated referrer member entry ran

variable (token subject artifactType) in
/-- On both stores, listing the referrers of a subject fails, or shows the same. -/
theorem enumerate_same (contents : SameContents service.repository store store') : ∃ result',
    Answers store' (enumerate service token subject artifactType) result' ∧
      (Fails ReferrersError.OfMedium result' ∨ ∃ result,
        Answers store (enumerate service token subject artifactType) result ∧
          SameListing service token store result result') := by
  by_cases valid : subject.IsValid
  swap
  · obtain ⟨reason, fails⟩ := digests_answers_of_invalid service.repository token valid
    exact ⟨_, enumerate_of_unlisted (fails store'), .inr
      ⟨_, enumerate_of_unlisted (fails store), .refused reason reason⟩⟩
  obtain ⟨members, lists, sane, ⟨error, fails, ofMedium⟩ | ⟨members', lists', perm⟩⟩ :=
    contents.listed valid token
  · exact ⟨_, enumerate_of_unlisted fails, .inl ⟨error, rfl, ofMedium⟩⟩
  have each (referrer : Digest) (member : referrer ∈ members) : ∃ answer answer',
      Answers store (findEntry service token artifactType referrer) answer ∧
      Answers store' (findEntry service token artifactType referrer) answer' ∧
      (Fails ReferrersError.OfMedium answer' ∨ answer' = answer) ∧
      ∀ entry, answer = .ok (some entry) → Dated service token store entry := by
    have valid := sane referrer member
    obtain ⟨answer', answers', alternatives⟩ :=
      findEntry_matches contents.blobs service token valid artifactType
    obtain ⟨answer, answers, own⟩ := findEntry_matches contents.own service token valid artifactType
    refine ⟨answer, answer', answers, answers', alternatives.imp_right ?_, ?_⟩
    · rintro ⟨known, found, agrees⟩
      cases answers.unique found
      cases agrees with
      | error error => rfl
      | ok same => rw [same.1]
    · rintro entry rfl
      obtain ⟨_, ⟨⟩, -⟩ | ⟨known, found, agrees⟩ := own
      cases answers.unique found
      cases agrees with
      | ok same => exact same.2 entry rfl
  have : Nonempty (Except ReferrersError (Option Entry)) := ⟨.ok none⟩
  choose! answer answer' answers answers' alternatives dated using each
  have first := enumerate_of_listed lists answers
  have second := enumerate_of_listed lists' fun referrer member =>
    answers' referrer (perm.mem_iff.mp member)
  rcases sameListing_of_entries perm alternatives dated with ⟨error, failed, ofMedium⟩ | same
  · rw [failed] at second
    exact ⟨_, second, .inl ⟨error, rfl, ofMedium⟩⟩
  · exact ⟨_, second, .inr ⟨_, first, same⟩⟩

end Enumerate

/-! ## Marks -/

section Marks

variable [ListingBackend σ] [ListingBackend τ] {repository : String} {token : Token} {marks : MarkSet}

/-- Digests that are listed on both stores are linked to the same referrers. -/
theorem linkedTo_iff_of_contents (contents : SameContents repository store store')
    {subject referrer : Digest} {members' : List Digest} (valid : subject.IsValid)
    (listed : Answers store' (digests repository token subject) (.ok members')) :
    LinkedTo store' repository subject referrer ↔ LinkedTo store repository subject referrer := by
  obtain ⟨members, lists, -, ⟨error, fails, -⟩ | ⟨found', lists', perm⟩⟩ :=
    contents.listed valid token
  · cases listed.unique fails
  · cases listed.unique lists'
    rw [linkedTo_iff_of_answers lists, linkedTo_iff_of_answers lists', perm.mem_iff]

/-- When all listings succeed, the same is reached on both stores. -/
theorem reached_eq_of_contents (contents : SameContents repository store store')
    (listed : ∀ subject ∈ Reached store' repository marks, subject.IsValid →
      ∃ members, Answers store' (digests repository token subject) (.ok members)) :
    Reached store' repository marks = Reached store repository marks := by
  have step {subject referrer : Digest} (reached : subject ∈ Reached store' repository marks)
      (valid : subject.IsValid) :
      LinkedTo store' repository subject referrer ↔ LinkedTo store repository subject referrer := by
    obtain ⟨members, lists⟩ := listed subject reached valid
    exact linkedTo_iff_of_contents contents valid lists
  ext digest
  constructor
  · rintro ⟨mark, marked, chain⟩
    induction chain with
    | refl => exact reached_of_mem marked
    | tail chain linked reached =>
      exact reached_of_linkedTo reached ((step ⟨mark, marked, chain⟩ linked.valid).mp linked)
  · rintro ⟨mark, marked, chain⟩
    induction chain with
    | refl => exact reached_of_mem marked
    | tail _ linked reached =>
      exact reached_of_linkedTo reached ((step reached linked.valid).mpr linked)

variable (token marks) in
/-- On both stores, marks are extended to the same marks. -/
theorem extendMarks_matches (contents : SameContents repository store store') :
    Matches store store' ReferrersError.OfMedium Eq (extendMarks marks repository token)
      (extendMarks marks repository token) := by
  rcases extendMarks_fails_or_listed store' repository token marks with
    ⟨subject, valid, error, fails, ends⟩ | listed'
  · obtain ⟨members, -, -, ⟨error', fails', ofMedium⟩ | ⟨members', lists', -⟩⟩ :=
      contents.listed valid token
    · cases fails.unique fails'
      exact .of_lost ends ofMedium
    · cases fails.unique lists'
  have same := reached_eq_of_contents contents listed'
  have listed (subject : Digest) (reached : subject ∈ Reached store repository marks)
      (valid : subject.IsValid) :
      ∃ members, Answers store (digests repository token subject) (.ok members) := by
    obtain ⟨members, lists, -⟩ := contents.listed valid token
    exact ⟨members, lists⟩
  obtain ⟨extended, ends, -, reached_iff, -⟩ := extendMarks_closure listed
  obtain ⟨extended', ends', -, reached_iff', -⟩ := extendMarks_closure listed'
  have extended_eq : extended = extended' := by
    apply MarkSet.eq_of_mem_iff
    intro digest
    rw [reached_iff, reached_iff', same]
  exact .of_answers ends ends' (.ok extended_eq)

end Marks

end Referrers

open Referrers

/-- Files that mirror memory hold the same in their repository. -/
theorem Mirrors.sameContents {payloads : Set Bytes} {repository : String} {memory : MemoryStore}
    {files : FileStore} (mirrors : Mirrors payloads repository memory files)
    (named : validRepositoryName repository = true) : SameContents repository memory files := by
  refine ⟨mirrors.sameBlobs, memory.sameBlobs_self, fun {subject} valid token => ?_⟩
  obtain ⟨path, derived⟩ := referrersLinkPath_of_valid named valid
  refine ⟨memory.members path, MemoryStore.digests_answers token memory derived, ?_, ?_⟩
  · intro member inside
    obtain ⟨names, linked, -⟩ := (mirrors.links_iff derived).mpr inside
    obtain ⟨algorithm, validates, -⟩ := FileStore.linkNames_eq_ok_iff.mp linked
    exact ⟨algorithm, validates⟩
  · obtain ⟨result, answers, ⟨_, rfl, source, rfl⟩ | ⟨members, shown, nodup, mem_iff⟩⟩ :=
      mirrors.tidy.listLinks_answers derived token
    · exact .inl ⟨_, digests_answers_of_listed derived answers, source, rfl⟩
    · have listed := digests_answers_of_listed derived answers
      rw [shown] at listed
      refine .inr ⟨members, listed, ?_⟩
      rw [List.perm_ext_iff_of_nodup nodup (mirrors.nodup path)]
      intro digest
      rw [mem_iff, mirrors.links_iff derived]

/-! ## Operations one after the other -/

/-- Runs an operation with nothing in the way: its result, and the store afterwards. -/
def ask {σ ε α : Type} (store : σ) (action : Action σ ε α) : Except ε α × σ :=
  (action.runIn { store }).map id World.store

theorem ask_of_answers {σ ε α : Type} {store : σ} {action : Action σ ε α} {result : Except ε α}
    (answers : Answers store action result) : ask store action = (result, store) := by
  obtain ⟨after, ran, same, -⟩ := answers { store } rfl rfl
  rw [ask, ran, Prod.map, same]
  rfl

/-- What clients ask for: requests, and questions that change nothing. -/
inductive Operation where
  | request (request : Request)
  | exists? (digest : Digest)
  | get (digest : Digest)
  | enumerate (subject : Digest) (artifactType : String)
  | extendMarks (marks : MarkSet)

/-- The answer to an operation. -/
inductive Answer where
  | happened (event : Event)
  | known (result : Except StorageError Bool)
  | found (result : Except StorageError Manifest)
  | listed (result : Except ReferrersError (List Descriptor))
  | marked (result : Except ReferrersError MarkSet)

/-- An operation and the service that is asked. -/
structure Step where
  service : ManifestService
  operation : Operation

namespace Step

/-- What is put by a step, if anything. -/
def payload? (step : Step) : Option Bytes :=
  match step.operation with
  | .request request => request.payload?
  | _ => none

/-- A step is asked of a service of a repository. Manifests are looked up by valid digests. -/
structure In (step : Step) (repository : String) : Prop where
  repository_eq : step.service.repository = repository
  artifactsIn : step.service.ArtifactsIn repository
  exists? {digest : Digest} (asks : step.operation = .exists? digest) : digest.IsValid
  get {digest : Digest} (asks : step.operation = .get digest) : digest.IsValid

variable {σ : Type} [Backend σ]

/-- Performs a step with nothing in the way: its answer, and the store afterwards. -/
def perform (store : σ) (step : Step) : Answer × σ :=
  match step.operation with
  | .request request =>
    ((⟨step.service, request, .none⟩ : Call).serve store).map .happened id
  | .exists? digest => (ask store (ManifestService.exists? .callers digest)).map .known id
  | .get digest => (ask store (step.service.get .callers digest)).map .found id
  | .enumerate subject artifactType =>
    (ask store (enumerate step.service .callers subject artifactType)).map .listed id
  | .extendMarks marks =>
    (ask store (extendMarks marks step.service.repository .callers)).map .marked id

def answer (store : σ) (step : Step) : Answer := (step.perform store).1

def after (store : σ) (step : Step) : σ := (step.perform store).2

/-- The store after some steps. -/
def afterAll (store : σ) (steps : List Step) : σ := steps.foldl after store

/-- The answers to some steps. -/
def answers (store : σ) : List Step → List Answer
  | [] => []
  | step :: rest => step.answer store :: answers (step.after store) rest

theorem answers_append (store : σ) (before later : List Step) :
    answers store (before ++ later) = answers store before ++ answers (afterAll store before) later := by
  induction before generalizing store with
  | nil => rfl
  | cons step rest ih => exact congrArg (step.answer store :: ·) (ih (step.after store))

end Step

/-- An answer tells of a failure of the medium. -/
def Answer.OfMedium : Answer → Prop
  | .happened (.blobPut _ _ result) => Fails StorageError.OfMedium result
  | .happened (.manifestPut _ _ result) => Fails PutError.OfMedium result
  | .known result => Fails StorageError.OfMedium result
  | .found result => Fails StorageError.OfMedium result
  | .listed result => Fails ReferrersError.OfMedium result
  | .marked result => Fails ReferrersError.OfMedium result

instance : DecidablePred Answer.OfMedium
  | .happened (.blobPut _ _ result) => inferInstanceAs (Decidable (Fails _ result))
  | .happened (.manifestPut _ _ result) => inferInstanceAs (Decidable (Fails _ result))
  | .known result => inferInstanceAs (Decidable (Fails _ result))
  | .found result => inferInstanceAs (Decidable (Fails _ result))
  | .listed result => inferInstanceAs (Decidable (Fails _ result))
  | .marked result => inferInstanceAs (Decidable (Fails _ result))

/-- Two answers are the same. Descriptors of blobs are the same up to their media types, listings up to
the order of entries whose creation times do not tell them apart. -/
inductive SameAnswer {σ : Type} [Backend σ] (service : ManifestService) (store : σ) :
    Answer → Answer → Prop
  | blobPut (mediaType : String) (payload : Bytes) {result result' : Except StorageError Descriptor}
      (same : result'.map Descriptor.digest = result.map Descriptor.digest) :
      SameAnswer service store (.happened (.blobPut mediaType payload result))
        (.happened (.blobPut mediaType payload result'))
  | manifestPut (manifest : Manifest) (skip : Bool) (result : Except PutError Digest) :
      SameAnswer service store (.happened (.manifestPut manifest skip result))
        (.happened (.manifestPut manifest skip result))
  | known (result : Except StorageError Bool) : SameAnswer service store (.known result) (.known result)
  | found (result : Except StorageError Manifest) :
      SameAnswer service store (.found result) (.found result)
  | listed {result result' : Except ReferrersError (List Descriptor)}
      (same : SameListing service .callers store result result') :
      SameAnswer service store (.listed result) (.listed result')
  | marked (result : Except ReferrersError MarkSet) :
      SameAnswer service store (.marked result) (.marked result)

namespace Mirrors

variable {payloads : Set Bytes} {repository : String} {memory : MemoryStore} {files : FileStore}

/-- A request is answered alike, and what it puts is in memory as it is in files. -/
theorem serve (mirrors : Mirrors payloads repository memory files)
    (injective : Set.InjOn Digest.ofBytes payloads) {service : ManifestService}
    (artifactsIn : service.ArtifactsIn repository) {request : Request}
    (member : ∀ payload, request.payload? = some payload → payload ∈ payloads) {call : Call}
    (call_eq : call = ⟨service, request, .none⟩)
    (intact : ¬ Answer.OfMedium (.happened (call.serve files).1)) :
    SameAnswer service memory (.happened (call.serve memory).1) (.happened (call.serve files).1) ∧
      Mirrors payloads repository (call.serve memory).2 (call.serve files).2 := by
  have alikes := interchangeable injective repository
  subst call_eq
  cases request with
  | putBlob mediaType payload =>
    obtain ⟨result', after', ran', alternatives⟩ :=
      alikes.putBlob (member payload rfl) .callers mediaType { store := memory } { store := files }
        mirrors rfl rfl
    simp only [Call.serve, ran'] at intact ⊢
    obtain ⟨error, rfl, ofMedium⟩ | ⟨result, after, ran, agrees, mirrors, -⟩ := alternatives
    · exact absurd ⟨error, rfl, ofMedium⟩ intact
    simp only [ran]
    refine ⟨.blobPut mediaType payload ?_, mirrors⟩
    cases agrees with
    | error error => rfl
    | ok same => exact congrArg Except.ok same.2
  | putManifest manifest skip =>
    obtain ⟨result', after', ran', alternatives⟩ :=
      ManifestService.put_tracks alikes .callers
        (fun _ sealed => member _ (Request.payload?_putManifest sealed skip)) artifactsIn skip
        { store := memory } { store := files } mirrors rfl rfl
    simp only [Call.serve, ran'] at intact ⊢
    obtain ⟨error, rfl, ofMedium⟩ | ⟨result, after, ran, agrees, mirrors, -⟩ := alternatives
    · exact absurd ⟨error, rfl, ofMedium⟩ intact
    simp only [ran, agrees.eq]
    exact ⟨.manifestPut manifest skip result', mirrors⟩

/-- A step is answered alike, and afterwards files hold what is in memory again. -/
theorem step (mirrors : Mirrors payloads repository memory files)
    (named : validRepositoryName repository = true)
    (injective : Set.InjOn Digest.ofBytes payloads) {step : Step} (within : step.In repository)
    (member : ∀ payload, step.payload? = some payload → payload ∈ payloads)
    (intact : ¬ (step.answer files).OfMedium) :
    SameAnswer step.service memory (step.answer memory) (step.answer files) ∧
      Mirrors payloads repository (step.after memory) (step.after files) := by
  obtain ⟨service, operation⟩ := step
  obtain ⟨rfl, artifactsIn, existsValid, getValid⟩ := within
  have contents := mirrors.sameContents named
  cases operation with
  | request request => exact mirrors.serve injective artifactsIn member rfl intact
  | exists? digest =>
    simp only [Step.answer, Step.after, Step.perform, Prod.map] at intact ⊢
    obtain ⟨error, failed, ofMedium⟩ | ⟨known, found, found'⟩ :=
      ManifestService.exists?_same contents.blobs (existsValid rfl) .callers
    · rw [ask_of_answers failed] at intact
      exact absurd ⟨error, rfl, ofMedium⟩ intact
    · rw [ask_of_answers found, ask_of_answers found']
      exact ⟨.known _, mirrors⟩
  | get digest =>
    simp only [Step.answer, Step.after, Step.perform, Prod.map] at intact ⊢
    obtain ⟨_, answers', ⟨error, rfl, ofMedium⟩ | ⟨result, answers, agrees⟩⟩ :=
      ManifestService.get_matches contents.blobs (getValid rfl) .callers service
    · rw [ask_of_answers answers'] at intact
      exact absurd ⟨error, rfl, ofMedium⟩ intact
    · rw [ask_of_answers answers, ask_of_answers answers', agrees.eq]
      exact ⟨.found _, mirrors⟩
  | enumerate subject artifactType =>
    simp only [Step.answer, Step.after, Step.perform, Prod.map] at intact ⊢
    obtain ⟨_, answers', ⟨error, rfl, ofMedium⟩ | ⟨result, answers, same⟩⟩ :=
      enumerate_same .callers subject artifactType contents
    · rw [ask_of_answers answers'] at intact
      exact absurd ⟨error, rfl, ofMedium⟩ intact
    · rw [ask_of_answers answers, ask_of_answers answers']
      exact ⟨.listed same, mirrors⟩
  | extendMarks marks =>
    simp only [Step.answer, Step.after, Step.perform, Prod.map] at intact ⊢
    obtain ⟨_, answers', ⟨error, rfl, ofMedium⟩ | ⟨result, answers, agrees⟩⟩ :=
      extendMarks_matches .callers marks contents
    · rw [ask_of_answers answers'] at intact
      exact absurd ⟨error, rfl, ofMedium⟩ intact
    · rw [ask_of_answers answers, ask_of_answers answers', agrees.eq]
      exact ⟨.marked _, mirrors⟩

/-- After any steps, files hold what is in memory. -/
theorem afterAll (mirrors : Mirrors payloads repository memory files)
    (named : validRepositoryName repository = true)
    (injective : Set.InjOn Digest.ofBytes payloads) {steps : List Step}
    (within : ∀ step ∈ steps, step.In repository)
    (member : ∀ step ∈ steps, ∀ payload, step.payload? = some payload → payload ∈ payloads)
    (intact : ∀ answer ∈ Step.answers files steps, ¬ answer.OfMedium) :
    Mirrors payloads repository (Step.afterAll memory steps) (Step.afterAll files steps) := by
  induction steps generalizing memory files with
  | nil => exact mirrors
  | cons step rest ih =>
    obtain ⟨firstWithin, restWithin⟩ := List.forall_mem_cons.mp within
    obtain ⟨firstMember, restMember⟩ := List.forall_mem_cons.mp member
    obtain ⟨firstIntact, restIntact⟩ := List.forall_mem_cons.mp intact
    obtain ⟨-, next⟩ := mirrors.step named injective firstWithin firstMember firstIntact
    exact ih next restWithin restMember restIntact

end Mirrors

/-- A step has the same answer in memory and in files, whatever came before it on both, as long as the
medium does not fail and no two payloads share a digest. -/
theorem backends_interchangeable {repository : String} (named : validRepositoryName repository = true)
    (root : String) {before : List Step} {step : Step}
    (within : ∀ other ∈ before ++ [step], other.In repository)
    (injective : Set.InjOn Digest.ofBytes
      {payload | ∃ other ∈ before ++ [step], other.payload? = some payload})
    (intact : ∀ answer ∈ Step.answers (⟨root, .empty⟩ : FileStore) (before ++ [step]),
      ¬ answer.OfMedium) :
    SameAnswer step.service (Step.afterAll ({} : MemoryStore) before)
      (step.answer (Step.afterAll ({} : MemoryStore) before))
      (step.answer (Step.afterAll (⟨root, .empty⟩ : FileStore) before)) := by
  rw [Step.answers_append, List.forall_mem_append] at intact
  obtain ⟨earlierIntact, lastIntact⟩ := intact
  have member (other : Step) (asked : other ∈ before ++ [step]) (payload : Bytes)
      (puts : other.payload? = some payload) :
      payload ∈ {payload | ∃ other ∈ before ++ [step], other.payload? = some payload} :=
    ⟨other, asked, puts⟩
  obtain ⟨earlierWithin, lastWithin⟩ := List.forall_mem_append.mp within
  obtain ⟨earlierMember, lastMember⟩ := List.forall_mem_append.mp member
  have mirrors := (Mirrors.empty _ repository root).afterAll named injective earlierWithin
    earlierMember earlierIntact
  exact (mirrors.step named injective (lastWithin step List.mem_cons_self)
    (lastMember step List.mem_cons_self) (lastIntact _ List.mem_cons_self)).1

/-- The empty payload is put without a media type and looked up. -/
def untypedSteps : List Step :=
  [⟨.library, .request (.putBlob "" [])⟩, ⟨.library, .exists? bareSubject⟩]

/-- An artifact about the empty payload, which is no manifest. -/
def unverifiedStep : Step :=
  ⟨.library, .request (.putManifest (bareArtifact { digest := bareSubject }) false)⟩

theorem payloads_untypedSteps {step : Step} (asked : step ∈ untypedSteps ++ [unverifiedStep])
    {payload : Bytes} (puts : step.payload? = some payload) :
    payload ∈ ({[], (bareArtifact { digest := bareSubject }).variant.canonicalPayload.bytes} :
      Set Bytes) := by
  simp only [untypedSteps, List.cons_append, List.nil_append, List.mem_cons, List.not_mem_nil,
    or_false, unverifiedStep] at asked
  obtain rfl | rfl | rfl := asked
  · exact .inl (Option.some.inj puts).symm
  · cases puts
  · exact .inr (Option.some.inj puts).symm

/-- The artifact is refused on both backends, for the same reason, although only files have a media type
for the payload. -/
theorem backends_interchangeable_unverified :
    (∀ answer ∈ Step.answers (⟨"", .empty⟩ : FileStore) (untypedSteps ++ [unverifiedStep]),
      ¬ answer.OfMedium) ∧
    SameAnswer .library (Step.afterAll ({} : MemoryStore) untypedSteps)
      (unverifiedStep.answer (Step.afterAll ({} : MemoryStore) untypedSteps))
      (unverifiedStep.answer (Step.afterAll (⟨"", .empty⟩ : FileStore) untypedSteps)) := by
  have named : validRepositoryName "library" = true := by decide +kernel
  have valid : bareSubject.IsValid := ⟨.sha256, by decide +kernel⟩
  have within (step : Step) (asked : step ∈ untypedSteps ++ [unverifiedStep]) :
      step.In "library" := by
    simp only [untypedSteps, List.cons_append, List.nil_append, List.mem_cons, List.not_mem_nil,
      or_false, unverifiedStep] at asked
    obtain rfl | rfl | rfl := asked
    · exact ⟨rfl, ManifestService.artifactsIn_library, nofun, nofun⟩
    · refine ⟨rfl, ManifestService.artifactsIn_library, fun asks => ?_, nofun⟩
      cases asks
      exact valid
    · exact ⟨rfl, ManifestService.artifactsIn_library, nofun, nofun⟩
  have differ : Digest.ofBytes [] ≠ Digest.ofBytes
      (bareArtifact { digest := bareSubject }).variant.canonicalPayload.bytes := by
    decide +kernel
  have intact : ∀ answer ∈ Step.answers (⟨"", .empty⟩ : FileStore)
      (untypedSteps ++ [unverifiedStep]), ¬ answer.OfMedium := by
    decide +kernel
  have injective := Set.injOn_pair.mpr fun same => absurd same differ
  refine ⟨intact, backends_interchangeable named "" within (injective.mono ?_) intact⟩
  rintro payload ⟨step, asked, puts⟩
  exact payloads_untypedSteps asked puts

end ArtifactRegistry
