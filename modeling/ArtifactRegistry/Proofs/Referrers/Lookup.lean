import ArtifactRegistry.Proofs.Referrers.Interchange
import ArtifactRegistry.Proofs.Storage.Consistency

/-! # What a listing looks up

For every linked digest, a listing looks up a manifest and what the store of blobs reports. Each
lookup has one answer on a store, and the answers determine the entry, `entryOf`: so a listing that
succeeds shows what the answers say, `enumerate_ok_iff`, even when something interferes with it,
`enumerate_consistent`. Which linked digests are shown, and as what, is put in terms of the answers
by `Shows` and `PassedOver`.
-/

namespace ArtifactRegistry

open Manifest ArtifactRegistry.Action

/-! ## Lookups are consistent -/

/-- The token or a fault has stopped an operation on referrers. -/
inductive ReferrersError.Stopped : ReferrersError → Prop
  | cancelled : Stopped .cancelled
  | lost : Stopped (.storage (.medium .injected))

theorem ReferrersError.stopped_ofStorage {error : StorageError} (stopped : error.Stopped) :
    (ReferrersError.ofStorage error).Stopped := by
  cases stopped with
  | cancelled => exact .cancelled
  | lost => exact .lost

section Consistent

variable {σ ε : Type} (service : ManifestService) (token : Token)

theorem ManifestService.decode_consistent {Stopped : ε → Prop} (mediaType : String)
    (digest : Digest) (content : Bytes) :
    Consistent Stopped (service.decode mediaType digest content : Action σ ε _) := by
  rw [decode]
  split
  · exact (Consistent.record _ _ _).bind fun _ => .pure _
  · exact .pure _

variable [Backend σ] [LookupBackend σ]

theorem ManifestService.get_consistent (digest : Digest) :
    Consistent StorageError.Stopped (service.get token digest : Action σ _ Manifest) := by
  apply (Store.statBlob_consistent token digest).outcome_bind
  · intro error stopped world
    cases stopped with
    | cancelled => exact ⟨_, rfl, .cancelled⟩
    | lost => exact ⟨_, rfl, .lost⟩
  intro found
  -- What follows once the blob is known to be a manifest.
  extract_lets rest
  have consistent (descriptor : Descriptor) :
      Consistent StorageError.Stopped (rest descriptor : Action σ _ Manifest) := by
    apply (Store.getBlob_consistent token digest).bind
    intro content
    apply (Consistent.ensureLive token).bind
    intro live
    apply (service.decode_consistent _ digest content).bind
    intro decoded
    cases decoded with
    | ok manifest => exact .pure manifest
    | error source => exact .throw _
  split
  · split
    · exact (Consistent.pure _).bind consistent
    · exact (Consistent.throw _).bind consistent
  · exact (Consistent.throw _).bind consistent
  · exact (Consistent.throw _).bind consistent

namespace Referrers

theorem digests_consistent (repository : String) (subject : Digest) :
    Consistent ReferrersError.Stopped (digests repository token subject : Action σ _ _) := by
  rw [digests]
  split
  · exact .throw _
  · exact .throw _
  · apply (Store.listLinks_consistent token _).outcome_bind
    · intro error stopped world
      cases stopped with
      | cancelled => exact ⟨_, rfl, .cancelled⟩
      | lost => exact ⟨_, rfl, .lost⟩
    intro result
    split
    · exact .pure _
    · exact .pure _
    · exact .throw _

theorem findArtifact_consistent (referrer : Digest) :
    Consistent ReferrersError.Stopped (findArtifact service token referrer : Action σ _ _) := by
  apply (service.get_consistent token referrer).outcome_bind
  · intro error stopped world
    cases stopped with
    | cancelled => exact ⟨_, rfl, .cancelled⟩
    | lost => exact ⟨_, rfl, .lost⟩
  intro result
  split
  · exact (Consistent.record _ _ _).bind fun _ => .pure _
  · exact (Consistent.record _ _ _).bind fun _ => .pure _
  · exact .throw _
  · split
    · exact .pure _
    · exact (Consistent.record _ _ _).bind fun _ => .pure _

theorem findEntry_consistent (artifactType : String) (referrer : Digest) :
    Consistent ReferrersError.Stopped (findEntry service token artifactType referrer :
      Action σ _ _) := by
  have stops (error : StorageError) (stopped : error.Stopped) :=
    ReferrersError.stopped_ofStorage stopped
  apply ((Consistent.ensureLive token).withErrors stops).bind
  intro live
  apply (findArtifact_consistent service token referrer).bind
  intro found
  cases found with
  | none => exact .pure _
  | some contents =>
    dsimp only
    split
    · exact .pure _
    · apply ((Store.statBlob_consistent token referrer).withErrors stops).bind
      intro stored
      cases createdAt referrer contents with
      | ok created => exact .pure _
      | error error => exact .throw _

theorem entries_consistent (artifactType : String) (linked : List Digest) :
    Consistent ReferrersError.Stopped (entries service token artifactType linked :
      Action σ _ _) := by
  induction linked with
  | nil => exact .pure []
  | cons referrer rest ih =>
    apply (findEntry_consistent service token artifactType referrer).bind
    intro entry
    exact ih.bind fun others => .pure _

theorem enumerate_consistent (subject : Digest) (artifactType : String) :
    Consistent ReferrersError.Stopped (enumerate service token subject artifactType :
      Action σ _ _) := by
  apply (Consistent.record _ _ _).bind
  intro written
  apply (digests_consistent token service.repository subject).bind
  intro linked
  exact (entries_consistent service token artifactType linked).bind fun entries => .pure _

end Referrers

end Consistent

namespace Referrers

variable {σ : Type} [Backend σ] {service : ManifestService} {token : Token} {store : σ}
  {artifactType : String} {subject referrer : Digest}

/-! ## Entries by answers -/

theorem passes_iff {contents : Artifact} : passes artifactType contents = true ↔
    (artifactType ≠ "" → contents.artifactType = some artifactType) := by
  by_cases all : artifactType = ""
  · simp [passes, all]
  · cases typed : contents.artifactType <;> simp [passes, all, typed, Ne.symm all]

/-- The entry of a linked digest, by what the lookups of its manifest and of its blob answer. -/
def entryOf (artifactType : String) (referrer : Digest) (got : Except StorageError Manifest)
    (reported : Except StorageError Descriptor) : Except ReferrersError (Option Entry) := do
  match ← artifactOf got with
  | none => return none
  | some contents =>
    if passes artifactType contents then
      let stored ← reported.mapError ReferrersError.ofStorage
      let created ← createdAt referrer contents
      return some ⟨created,
        { stored with
          mediaType := Kind.artifact.mediaType
          artifactType := contents.artifactType }⟩
    else return none

theorem findEntry_answers {got : Except StorageError Manifest}
    {reported : Except StorageError Descriptor}
    (gets : Answers store (service.get token referrer) got)
    (reports : Answers store (Store.statBlob token referrer) reported) :
    Answers store (findEntry service token artifactType referrer)
      (entryOf artifactType referrer got reported) := by
  refine ((Answers.ensureLive token).withErrors _).bind_ok ?_
  refine (findArtifact_answers gets).bind fun found _ => ?_
  cases found with
  | none => exact .pure none
  | some contents =>
    cases passing : passes artifactType contents with
    | false =>
      simp only [passing]
      exact .pure none
    | true =>
      simp only [passing, Bool.not_true, Bool.false_eq_true, if_false, if_true]
      refine (reports.withErrors _).bind fun stored _ => ?_
      cases createdAt referrer contents with
      | error error => exact .throw error
      | ok created => exact .pure _

/-- What a listing shows for a linked digest: there is an artifact that it is about, and the entry
has the time and the type that the artifact states and the rest from what the blob is reported as.
-/
inductive Shows (artifactType : String) (referrer : Digest) :
    Except StorageError Manifest → Except StorageError Descriptor → Entry → Prop
  | artifact {contents : Artifact} {payload? : Option Payload} {stored : Descriptor}
      {created : Option Timestamp}
      (wanted : artifactType ≠ "" → contents.artifactType = some artifactType)
      (dated : createdAt referrer contents = .ok created) :
      Shows artifactType referrer (.ok ⟨.artifact contents, payload?⟩) (.ok stored)
        ⟨created, { stored with
          mediaType := Kind.artifact.mediaType
          artifactType := contents.artifactType }⟩

/-- Why a listing shows nothing for a linked digest. -/
inductive PassedOver (artifactType : String) : Except StorageError Manifest → Prop
  | unknown (digest : Digest) : PassedOver artifactType (.error (.manifestUnknown digest))
  | unreadable (digest : Digest) (source : ManifestError) :
      PassedOver artifactType (.error (.unreadable digest source))
  | foreign {manifest : Manifest} (other : manifest.kind ≠ .artifact) :
      PassedOver artifactType (.ok manifest)
  | unwanted {contents : Artifact} {payload? : Option Payload} (specific : artifactType ≠ "")
      (other : contents.artifactType ≠ some artifactType) :
      PassedOver artifactType (.ok ⟨.artifact contents, payload?⟩)

section EntryOf

variable {got : Except StorageError Manifest} {reported : Except StorageError Descriptor}
  {entry : Entry}

/-- An artifact has the entry that is shown, or is not wanted. -/
theorem entryOf_artifact (contents : Artifact) (payload? : Option Payload) :
    entryOf artifactType referrer (.ok ⟨.artifact contents, payload?⟩) reported =
      if passes artifactType contents then do
        let stored ← reported.mapError ReferrersError.ofStorage
        let created ← createdAt referrer contents
        return some ⟨created,
          { stored with
            mediaType := Kind.artifact.mediaType
            artifactType := contents.artifactType }⟩
      else return none := rfl

theorem entryOf_eq_some_iff : entryOf artifactType referrer got reported = .ok (some entry) ↔
    Shows artifactType referrer got reported entry := by
  constructor
  · intro shown
    obtain ⟨found, taken, ran⟩ := bind_eq_ok_iff.mp shown
    clear shown
    cases found with
    | none => cases ran
    | some contents =>
      obtain ⟨payload?, rfl⟩ := artifactOf_eq_some taken
      dsimp only at ran
      split at ran
      · next passing =>
        obtain ⟨stored, reports, ran⟩ := bind_eq_ok_iff.mp ran
        obtain ⟨created, dated, ended⟩ := bind_eq_ok_iff.mp ran
        obtain rfl := mapError_eq_ok_iff.mp reports
        cases ended
        exact .artifact (passes_iff.mp passing) dated
      · cases ran
  · rintro ⟨wanted, dated⟩
    rw [entryOf_artifact, if_pos (passes_iff.mpr wanted), dated]
    rfl

/-- What is not taken for an artifact is passed over. -/
theorem passedOver_of_artifactOf (taken : artifactOf got = .ok none) :
    PassedOver artifactType got := by
  rcases got with error | ⟨variant, payload?⟩
  · cases error
    case unreadable digest source => exact .unreadable digest source
    case manifestUnknown digest => exact .unknown digest
    all_goals cases taken
  · cases variant with
    | image contents => exact .foreign nofun
    | index contents => exact .foreign nofun
    | artifact contents => cases taken

theorem entryOf_eq_none_iff : entryOf artifactType referrer got reported = .ok none ↔
    PassedOver artifactType got := by
  constructor
  · intro shown
    obtain ⟨found, taken, ran⟩ := bind_eq_ok_iff.mp shown
    clear shown
    cases found with
    | none => exact passedOver_of_artifactOf taken
    | some contents =>
      obtain ⟨payload?, rfl⟩ := artifactOf_eq_some taken
      dsimp only at ran
      split at ran
      · obtain ⟨stored, -, ran⟩ := bind_eq_ok_iff.mp ran
        obtain ⟨created, -, ended⟩ := bind_eq_ok_iff.mp ran
        cases ended
      · next stopped =>
        rw [passes_iff, Classical.not_imp] at stopped
        exact .unwanted stopped.1 stopped.2
  · intro passed
    cases passed with
    | unknown digest => rfl
    | unreadable digest source => rfl
    | @foreign manifest other =>
      obtain ⟨variant, payload?⟩ := manifest
      cases variant with
      | image contents => rfl
      | index contents => rfl
      | artifact contents => exact absurd rfl other
    | unwanted specific other =>
      rw [entryOf_artifact, if_neg fun passing => other (passes_iff.mp passing specific)]
      rfl

/-- An entry has the digest that the blob is reported under. -/
theorem Shows.digest_eq (shows : Shows artifactType referrer got reported entry) :
    ∃ stored, reported = .ok stored ∧ entry.descriptor.digest = stored.digest := by
  cases shows with
  | artifact wanted dated => exact ⟨_, rfl, rfl⟩

/-- One type is selected from all types by what entries say. -/
theorem entryOf_filter {found : Option Entry} (ran : entryOf "" referrer got reported = .ok found)
    (specific : artifactType ≠ "") : entryOf artifactType referrer got reported =
      .ok (found.filter fun entry => entry.descriptor.artifactType = some artifactType) := by
  cases found with
  | none =>
    rw [Option.filter_none, entryOf_eq_none_iff]
    cases entryOf_eq_none_iff.mp ran with
    | unknown digest => exact .unknown digest
    | unreadable digest source => exact .unreadable digest source
    | foreign other => exact .foreign other
    | unwanted all other => exact absurd rfl all
  | some entry =>
    cases entryOf_eq_some_iff.mp ran with
    | @artifact contents payload? stored created wanted dated =>
    by_cases typed : contents.artifactType = some artifactType
    · rw [Option.filter_some_pos (by simpa using typed), entryOf_eq_some_iff]
      exact .artifact (fun _ => typed) dated
    · rw [Option.filter_some_neg (by simpa using typed), entryOf_eq_none_iff]
      exact .unwanted specific typed

end EntryOf

/-! ## Listings by answers -/

variable [LookupBackend σ] {listing : List Descriptor}

variable (service token store) in
/-- Every store has answers to all lookups. -/
theorem exists_lookups : ∃ (got : Digest → Except StorageError Manifest)
    (reported : Digest → Except StorageError Descriptor),
    (∀ referrer, Answers store (service.get token referrer) (got referrer)) ∧
      ∀ referrer, Answers store (Store.statBlob token referrer) (reported referrer) := by
  have gets (referrer : Digest) : ∃ result, Answers store (service.get token referrer) result :=
    (service.get_consistent token referrer).exists_answer store
  have reports (referrer : Digest) :
      ∃ result, Answers store (Store.statBlob token referrer) result :=
    (Store.statBlob_consistent token referrer).exists_answer store
  choose got gets using gets
  choose reported reports using reports
  exact ⟨got, reported, gets, reports⟩

/-- A listing shows the entries of the linked digests. -/
theorem enumerate_ok_iff {got : Digest → Except StorageError Manifest}
    {reported : Digest → Except StorageError Descriptor}
    (gets : ∀ referrer, Answers store (service.get token referrer) (got referrer))
    (reports : ∀ referrer, Answers store (Store.statBlob token referrer) (reported referrer)) :
    Answers store (enumerate service token subject artifactType) (.ok listing) ↔
      ∃ linked found, Answers store (digests service.repository token subject) (.ok linked) ∧
        (linked.mapM fun referrer =>
          entryOf artifactType referrer (got referrer) (reported referrer)) = .ok found ∧
        listing = arrange (found.flatMap Option.toList) := by
  have each (referrer : Digest) : Answers store (findEntry service token artifactType referrer)
      (entryOf artifactType referrer (got referrer) (reported referrer)) :=
    findEntry_answers (gets referrer) (reports referrer)
  constructor
  · intro lists
    obtain ⟨result, links⟩ :=
      (digests_consistent token service.repository subject).exists_answer store
    cases result with
    | error error => cases lists.unique (enumerate_of_unlisted links)
    | ok linked =>
      have listed := lists.unique (enumerate_of_listed links fun referrer _ => each referrer)
      obtain ⟨found, ran, arranged⟩ := map_eq_ok_iff.mp listed.symm
      exact ⟨linked, found, links, ran, arranged.symm⟩
  · rintro ⟨linked, found, links, ran, rfl⟩
    have lists := enumerate_of_listed links fun referrer _ => each referrer
    rwa [ran] at lists

end Referrers

end ArtifactRegistry
