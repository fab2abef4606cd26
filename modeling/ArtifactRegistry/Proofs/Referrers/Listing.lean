import ArtifactRegistry.Proofs.Referrers.Attribution
import ArtifactRegistry.Proofs.Referrers.Survival

/-! # Listings of referrers

A listing shows every artifact that was put about a subject, and shows it once: `enumerate_complete`.
The link set of the subject has no other members, `mem_members_iff`, and no member twice; every member
can be read again as the artifact that was put; and putting entries in order loses none,
`perm_arrange`.
-/

namespace ArtifactRegistry

open Manifest ArtifactRegistry.Action

/-! ## The members of a link set -/

theorem Refers.mono {past : List Event} {subject referrer : Digest}
    (refers : Refers past subject referrer) (event : Event) :
    Refers (past ++ [event]) subject referrer := by
  obtain ⟨manifest, skip, about, happened, rest⟩ := refers
  exact ⟨manifest, skip, about, List.mem_append_left _ happened, rest⟩

namespace MemoryStore

variable {service : ManifestService} {repository path : String} {store after : MemoryStore}
  {past events : List Event} {subject digest : Digest}

/-- Sets have no member twice, and no members but referrers of their subject. -/
structure HoldsOnlyReferrers (repository : String) (events : List Event) (store : MemoryStore) :
    Prop where
  nodup (path : String) : (store.members path).Nodup
  only {path : String} {digest : Digest} (member : digest ∈ store.members path) :
    ∃ subject, Refers events subject digest ∧ referrersLinkPath repository subject = .ok path

theorem HoldsOnlyReferrers.of_same (holds : HoldsOnlyReferrers repository past store)
    (event : Event) (same : ∀ path, after.members path = store.members path) :
    HoldsOnlyReferrers repository (past ++ [event]) after := by
  constructor
  · intro path
    rw [same]
    exact holds.nodup path
  · intro path digest member
    rw [same] at member
    obtain ⟨subject, refers, derived⟩ := holds.only member
    exact ⟨subject, refers.mono event, derived⟩

theorem HoldsOnlyReferrers.serve {call : Call} (artifactsIn : call.service.ArtifactsIn repository)
    (past : List Event) (store : MemoryStore) (holds : HoldsOnlyReferrers repository past store) :
    HoldsOnlyReferrers repository (past ++ [(call.serve store).1]) (call.serve store).2 := by
  have served := served call store
  generalize call.serve store = outcome at served ⊢
  obtain ⟨event, after⟩ := outcome
  cases served with
  | blobRefused mediaType payload error => exact holds.of_same _ fun _ => rfl
  | blobStored mediaType payload descriptor digest_eq =>
    exact holds.of_same _ fun _ => members_put ..
  | @manifestPut manifest result _ skip effect =>
    cases effect with
    | refused error => exact holds.of_same _ fun _ => rfl
    | stored inCharge accepts => exact holds.of_same _ fun _ => members_put ..
    | unlinked error inCharge accepts => exact holds.of_same _ fun _ => members_put ..
    | @linked handler payload path inCharge accepts =>
      have stored := holds.of_same (.manifestPut manifest skip (.ok payload.digest))
        fun path => members_put manifest.kind.mediaType payload.bytes path
      obtain ⟨about, has, derived⟩ := artifactsIn.derived inCharge accepts
      constructor
      · exact fun other => nodup_addLink (stored.nodup other) path payload.digest
      · intro other digest member
        rcases mem_members_addLink.mp member with before | ⟨rfl, rfl⟩
        · exact stored.only before
        · exact ⟨about.digest, ⟨manifest, skip, about, by simp, has, rfl⟩, derived⟩

theorem holdsOnlyReferrers_serveAll {calls : List Call}
    (artifactsIn : ∀ call ∈ calls, call.service.ArtifactsIn repository) :
    HoldsOnlyReferrers repository (Call.serveAll ({} : MemoryStore) calls).1
      (Call.serveAll ({} : MemoryStore) calls).2 :=
  Call.serveAll_preserves
    (fun call called => HoldsOnlyReferrers.serve (artifactsIn call called)) []
    ⟨fun _ => .nil, nofun⟩

/-- The members of the link set of a subject are its referrers. -/
theorem mem_members_iff (holds : HoldsReferrers repository events store)
    (only : HoldsOnlyReferrers repository events store)
    (derived : referrersLinkPath repository subject = .ok path) :
    digest ∈ store.members path ↔ Refers events subject digest := by
  constructor
  · intro member
    obtain ⟨subject', refers, derived'⟩ := only.only member
    rwa [eq_of_ofText_eq derived derived' rfl]
  · intro refers
    obtain ⟨path', derived', member⟩ := holds subject digest refers
    cases derived.symm.trans derived'
    exact member

end MemoryStore

/-! ## Entries in order -/

namespace Referrers

/-- The times of creation, latest first, as they are compared. -/
theorem notBefore_iff {a b : Timestamp × Descriptor} : notBefore a b = true ↔
    b.1.seconds < a.1.seconds ∨ a.1.seconds = b.1.seconds ∧ b.1.nanos ≤ a.1.nanos := by
  rw [notBefore, decide_eq_true_iff, Timestamp.compare, ne_eq, Ordering.then_eq_lt, compare_lt_iff_lt,
    compare_eq_iff_eq, compare_lt_iff_lt]
  omega

theorem notBefore_trans (a b c : Timestamp × Descriptor) (first : notBefore a b = true)
    (second : notBefore b c = true) : notBefore a c = true := by
  simp only [notBefore_iff] at *
  omega

theorem notBefore_total (a b : Timestamp × Descriptor) :
    (notBefore a b || notBefore b a) = true := by
  rw [Bool.or_eq_true, notBefore_iff, notBefore_iff]
  omega

/-- Entries with their creation time, those that have one. -/
def dated (entries : List Entry) : List (Timestamp × Descriptor) :=
  entries.filterMap fun entry => entry.created.map fun time => (time, entry.descriptor)

/-- The entries of a listing in the order of the listing. -/
def ordered (entries : List Entry) : List Entry :=
  ((dated entries).mergeSort notBefore).map (fun pair => ⟨some pair.1, pair.2⟩) ++
    entries.filter fun entry => entry.created.isNone

theorem arrange_eq (entries : List Entry) :
    arrange entries = (ordered entries).map Entry.descriptor := by
  rw [arrange, ordered, List.map_append, List.map_map]
  rfl

theorem map_dated (entries : List Entry) :
    (dated entries).map (fun pair => (⟨some pair.1, pair.2⟩ : Entry)) =
      entries.filter fun entry => entry.created.isSome := by
  rw [dated]
  induction entries with
  | nil => rfl
  | cons entry rest ih =>
    obtain ⟨created, descriptor⟩ := entry
    rw [List.filterMap_cons, List.filter_cons]
    cases created with
    | none => simpa using ih
    | some time => simpa using ih

/-- Entries with a creation time are in one part of a listing, those without in the other. -/
theorem perm_ordered (entries : List Entry) : (ordered entries).Perm entries := by
  have undated_eq : (fun entry : Entry => entry.created.isNone) =
      fun entry => !entry.created.isSome := by
    funext entry
    cases entry.created <;> rfl
  have sorted := (List.mergeSort_perm (dated entries) notBefore).map
    fun pair => (⟨some pair.1, pair.2⟩ : Entry)
  rw [map_dated] at sorted
  rw [ordered, undated_eq]
  exact (sorted.append_right _).trans (List.filter_append_perm _ entries)

theorem perm_arrange (entries : List Entry) :
    (arrange entries).Perm (entries.map Entry.descriptor) := by
  rw [arrange_eq]
  exact (perm_ordered entries).map Entry.descriptor

/-- The same entries have the same creation times in the order of a listing. -/
theorem created_ordered {entries entries' : List Entry} (same : entries.Perm entries') :
    (ordered entries).map Entry.created = (ordered entries').map Entry.created := by
  have times_eq : ((dated entries).mergeSort notBefore).map Prod.fst =
      ((dated entries').mergeSort notBefore).map Prod.fst := by
    have sorted (entries : List Entry) : (((dated entries).mergeSort notBefore).map
        Prod.fst).Pairwise fun a b => b.seconds < a.seconds ∨
          a.seconds = b.seconds ∧ b.nanos ≤ a.nanos :=
      List.pairwise_map.mpr
        ((List.pairwise_mergeSort notBefore_trans notBefore_total _).imp notBefore_iff.mp)
    have perm : ((dated entries).mergeSort notBefore).Perm ((dated entries').mergeSort notBefore) :=
      (List.mergeSort_perm _ _).trans ((same.filterMap _).trans (List.mergeSort_perm _ _).symm)
    apply (perm.map Prod.fst).eq_of_pairwise _ (sorted entries) (sorted entries')
    rintro ⟨seconds, nanos⟩ ⟨seconds', nanos'⟩ - - first second
    dsimp only at first second
    rw [Timestamp.mk.injEq]
    omega
  have undated (entries : List Entry) :
      (entries.filter fun entry => entry.created.isNone).map Entry.created =
        List.replicate (entries.filter fun entry => entry.created.isNone).length none := by
    rw [← List.map_const']
    apply List.map_congr_left
    intro entry member
    exact Option.isNone_iff_eq_none.mp (List.mem_filter.mp member).2
  have created_eq (entries : List Entry) : (ordered entries).map Entry.created =
      (((dated entries).mergeSort notBefore).map Prod.fst).map some ++
        (entries.filter fun entry => entry.created.isNone).map Entry.created := by
    rw [ordered, List.map_append, List.map_map, List.map_map]
    rfl
  rw [created_eq, created_eq, times_eq, undated, undated, (same.filter _).length_eq]

variable {σ : Type} [Backend σ] {service : ManifestService} {store : σ} {token : Token}
  {artifactType : String} {referrer : Digest} {contents : Artifact}

/-- With nothing in the way, an artifact that is found and says when it was created is listed. -/
theorem answers_entry {payload? : Option Payload} {stored : Descriptor}
    {created : Option Timestamp}
    (got : Answers store (service.get token referrer) (.ok ⟨.artifact contents, payload?⟩))
    (stated : Answers store (Store.statBlob token referrer) (.ok stored))
    (dated : createdAt referrer contents = .ok created)
    (passing : passes artifactType contents = true) :
    Answers store (findEntry service token artifactType referrer) (.ok (some
      ⟨created, { stored with
        mediaType := Kind.artifact.mediaType
        artifactType := contents.artifactType }⟩)) := by
  have loaded : Answers store (findArtifact service token referrer) (.ok (some contents)) :=
    got.outcome.bind_ok (.pure _)
  refine ((Answers.ensureLive token).withErrors _).bind_ok (loaded.bind_ok ?_)
  simp only [passing, Bool.not_true, Bool.false_eq_true, if_false]
  refine (stated.withErrors _).bind_ok ?_
  rw [dated]
  exact .pure _

/-- Entries are listed in the order of the digests. -/
theorem entries_answers {Described : Descriptor → Prop} {linked : List Digest}
    (each : ∀ referrer ∈ linked, ∃ entry : Entry, Answers store
      (findEntry service token artifactType referrer) (.ok (some entry)) ∧
      entry.descriptor.digest = referrer ∧ Described entry.descriptor) :
    ∃ listed : List Entry, Answers store (entries service token artifactType linked) (.ok listed) ∧
      (listed.map Entry.descriptor).map Descriptor.digest = linked ∧
      ∀ descriptor ∈ listed.map Entry.descriptor, Described descriptor := by
  induction linked with
  | nil => exact ⟨[], .pure [], rfl, nofun⟩
  | cons referrer rest ih =>
    obtain ⟨⟨entry, first, same, describes⟩, others⟩ := List.forall_mem_cons.mp each
    obtain ⟨listed, answers, digests_eq, described⟩ := ih others
    refine ⟨entry :: listed, first.bind_ok (answers.bind_ok (.pure _)), ?_, ?_⟩
    · rw [List.map_cons, List.map_cons, same, digests_eq]
    · exact List.forall_mem_cons.mpr ⟨describes, described⟩

/-- A repository without a valid name has no link sets. -/
theorem enumerate_of_invalid (invalid : validRepositoryName service.repository = false)
    (subject : Digest) : Answers store (enumerate service token subject artifactType)
      (.error (.storage (.invalidRepository service.repository))) := by
  have refused : referrersLinkPath service.repository subject =
      .error (.invalidRepository service.repository) := by
    rw [referrersLinkPath, referrersRoot, invalid]
    rfl
  have linked : Answers store (digests service.repository token subject)
      (.error (.storage (.invalidRepository service.repository))) := by
    rw [digests, refused]
    exact .throw _
  exact (Answers.record _ _ _).bind_ok linked.bind_error

end Referrers

namespace MemoryStore

variable {store : MemoryStore} (token : Token)

/-- With nothing in the way, the digests that are linked to a subject are the members of its set. -/
theorem digests_answers (store : MemoryStore) {repository path : String} {subject : Digest}
    (derived : referrersLinkPath repository subject = .ok path) :
    Answers store (Referrers.digests repository token subject) (.ok (store.members path)) := by
  simp only [Referrers.digests, derived]
  refine (listLinks_answers store token path).outcome.bind_ok ?_
  rw [members]
  cases store.links.get? path with
  | none => exact .pure []
  | some digests => exact .pure digests

end MemoryStore

/-! ## What is listed -/

/-- A put of an artifact with these contents about `subject` was answered with `digest`. -/
def PutAbout (events : List Event) (subject digest : Digest) (contents : Artifact)
    (payload? : Option Payload) : Prop :=
  ∃ skip about, .manifestPut ⟨.artifact contents, payload?⟩ skip (.ok digest) ∈ events ∧
    contents.subject = some about ∧ about.digest = subject

theorem Refers.putAbout {events : List Event} {subject digest : Digest}
    (refers : Refers events subject digest) :
    ∃ contents payload?, PutAbout events subject digest contents payload? := by
  obtain ⟨⟨variant, payload?⟩, skip, about, happened, has, rfl⟩ := refers
  cases variant with
  | image contents => cases has
  | index contents => cases has
  | artifact contents => exact ⟨contents, payload?, skip, about, happened, has, rfl⟩

/-- The entry of an artifact in a listing. -/
def Referrers.listed (contents : Artifact) (payload : Payload) : Descriptor :=
  { mediaType := Kind.artifact.mediaType
    digest := payload.digest
    size := Int64.ofNat payload.bytes.length
    artifactType := contents.artifactType }

/-- A descriptor is the entry of the artifact that was put. -/
def ListedFor (events : List Event) (subject : Digest) (descriptor : Descriptor) : Prop :=
  ∀ contents payload?, PutAbout events subject descriptor.digest contents payload? →
    ∃ payload, payload? = some payload ∧ descriptor = Referrers.listed contents payload

section Enumerate

variable {payloads : Set Bytes} {repository : String} {events : List Event} {store : MemoryStore}
  {subject digest : Digest}

/-- An artifact that was put can be listed as what it is. -/
theorem KeptWhole.answers_entry (kept : KeptWhole payloads repository events store)
    {service : ManifestService} (standard : service.Standard)
    (dated : ∀ digest contents payload?, PutAbout events subject digest contents payload? →
      ∃ created, Referrers.createdAt digest contents = .ok created)
    (refers : Refers events subject digest) (token : Token) :
    ∃ entry : Referrers.Entry, Answers store (Referrers.findEntry service token "" digest)
      (.ok (some entry)) ∧ entry.descriptor.digest = digest ∧
      ListedFor events subject entry.descriptor := by
  obtain ⟨contents, payload?, put⟩ := refers.putAbout
  obtain ⟨created, dated⟩ := dated digest contents payload? put
  obtain ⟨skip, about, happened, has, -⟩ := put
  obtain ⟨blob, payload, there, mediaType_eq, payload_eq, bytes_eq, parsed⟩ :=
    kept.artifact_of_answered happened has
  have got := ManifestService.get_answers standard kept.sound there mediaType_eq parsed token
  have found : store.blob? digest = some blob := there
  have stated := MemoryStore.statBlob_answers store token digest
  rw [found] at stated
  refine ⟨_, Referrers.answers_entry got stated dated rfl, rfl, ?_⟩
  rintro contents' payload?' ⟨skip', about', happened', has', -⟩
  -- Another put that was answered with the same digest was one of the same artifact.
  obtain ⟨_, _, there', -, -, -, parsed'⟩ := kept.artifact_of_answered happened' has'
  cases there.symm.trans there'
  cases parsed.symm.trans parsed'
  refine ⟨payload, payload?_of_payload payload_eq, ?_⟩
  rw [Referrers.listed, Payload.digest, ← bytes_eq, ← (kept.digest_eq there).1]
  rfl

/-- A listing of the referrers of a subject succeeds and shows every one of them once. -/
theorem KeptWhole.enumerate_answers (kept : KeptWhole payloads repository events store)
    (holds : MemoryStore.HoldsReferrers repository events store)
    (only : MemoryStore.HoldsOnlyReferrers repository events store) {service : ManifestService}
    (standard : service.Standard) (repository_eq : service.repository = repository)
    (named : validRepositoryName repository = true) (valid : subject.IsValid)
    (dated : ∀ digest contents payload?, PutAbout events subject digest contents payload? →
      ∃ created, Referrers.createdAt digest contents = .ok created) (token : Token) :
    ∃ listing, Answers store (Referrers.enumerate service token subject "") (.ok listing) ∧
      (listing.map Descriptor.digest).Nodup ∧
      (∀ digest, digest ∈ listing.map Descriptor.digest ↔ Refers events subject digest) ∧
      ∀ digest contents payload?, PutAbout events subject digest contents payload? →
        ∃ payload, payload? = some payload ∧ payload.digest = digest ∧
          Referrers.listed contents payload ∈ listing := by
  subst repository_eq
  obtain ⟨path, derived⟩ := referrersLinkPath_of_valid named valid
  obtain ⟨entries, loaded, digests_eq, described⟩ := Referrers.entries_answers
    fun referrer (member : referrer ∈ store.members path) => kept.answers_entry standard dated
      ((MemoryStore.mem_members_iff holds only derived).mp member) token
  have arranged := Referrers.perm_arrange entries
  have digests_perm : ((Referrers.arrange entries).map Descriptor.digest).Perm
      (store.members path) := digests_eq ▸ arranged.map Descriptor.digest
  refine ⟨Referrers.arrange entries, ?_, ?_, ?_, ?_⟩
  · have linked := MemoryStore.digests_answers token store derived
    exact (Answers.record _ _ _).bind_ok (linked.bind_ok (loaded.bind_ok (.pure _)))
  · exact digests_perm.nodup_iff.mpr (only.nodup path)
  · intro digest
    rw [digests_perm.mem_iff, MemoryStore.mem_members_iff holds only derived]
  · intro digest contents payload? put
    have member : digest ∈ store.members path := by
      obtain ⟨skip, about, happened, has, same⟩ := put
      rw [MemoryStore.mem_members_iff holds only derived]
      exact ⟨_, skip, about, happened, has, same⟩
    rw [← digests_eq] at member
    obtain ⟨descriptor, inside, rfl⟩ := List.mem_map.mp member
    obtain ⟨payload, payload_eq, same⟩ := described descriptor inside contents payload? put
    refine ⟨payload, payload_eq, ?_, arranged.mem_iff.mpr (same ▸ inside)⟩
    exact (congrArg Descriptor.digest same).symm

end Enumerate

/-- When only manifests were put into the store in memory, however it was interfered with, and artifacts
about a subject have no malformed creation time: listing the referrers of the subject succeeds. The
listing shows the digests that puts of artifacts about the subject were answered with and no others,
every one once, with the artifact media type, the size of the artifact and its type. Only a repository
without a valid name refuses. -/
theorem enumerate_complete {calls : List Call} {repository : String}
    (puts : ∀ call ∈ calls, ∃ manifest skip, call.request = .putManifest manifest skip)
    (wired : ∀ call ∈ calls, call.service.handlers .artifact = some (.referrers repository))
    (obtained : ∀ call ∈ calls, call.request.Obtained)
    (injective : Set.InjOn Digest.ofBytes
      {payload | ∃ call ∈ calls, call.request.payload? = some payload})
    {service : ManifestService} {handlers : List Handler}
    (standard : service = .withHandlers repository .withDefaults handlers) {subject : Digest}
    (valid : subject.IsValid)
    (dated : ∀ digest contents payload?,
      PutAbout (Call.serveAll ({} : MemoryStore) calls).1 subject digest contents payload? →
      ∃ created, Referrers.createdAt digest contents = .ok created) (token : Token) :
    (validRepositoryName repository = true → ∃ listing,
        Answers (Call.serveAll ({} : MemoryStore) calls).2
          (Referrers.enumerate service token subject "") (.ok listing) ∧
        (listing.map Descriptor.digest).Nodup ∧
        (∀ digest, digest ∈ listing.map Descriptor.digest ↔
          Refers (Call.serveAll ({} : MemoryStore) calls).1 subject digest) ∧
        ∀ digest contents payload?,
          PutAbout (Call.serveAll ({} : MemoryStore) calls).1 subject digest contents payload? →
          ∃ payload, payload? = some payload ∧ payload.digest = digest ∧
            Referrers.listed contents payload ∈ listing) ∧
      (validRepositoryName repository = false →
        Answers (Call.serveAll ({} : MemoryStore) calls).2
          (Referrers.enumerate service token subject "")
          (.error (.storage (.invalidRepository repository)))) := by
  have artifactsIn (call : Call) (called : call ∈ calls) : call.service.ArtifactsIn repository :=
    ManifestService.artifactsIn_of_wired (wired call called)
  have repository_eq : service.repository = repository := by
    rw [standard, ManifestService.repository_withHandlers]
  have standard : service.Standard :=
    standard ▸ ManifestService.standard_withHandlers repository handlers
  constructor
  · intro named
    have kept := KeptWhole.serveAll (MemoryStore.vacant repository) puts artifactsIn injective
      obtained fun call called payload stores => ⟨call, called, stores⟩
    exact kept.enumerate_answers (MemoryStore.holdsReferrers_serveAll wired)
      (MemoryStore.holdsOnlyReferrers_serveAll artifactsIn) standard repository_eq named valid dated
      token
  · intro invalid
    subst repository_eq
    exact Referrers.enumerate_of_invalid invalid subject

/-- Nothing was put into a repository whose name has an empty component, and its referrers cannot be
listed. -/
theorem enumerate_refused_by_name :
    (Digest.ofBytes []).IsValid ∧ ¬ ∃ listing, Answers (Call.serveAll ({} : MemoryStore) []).2
      (Referrers.enumerate (.withHandlers "library//app" .withDefaults
        (ManifestService.defaultHandlers ++ [.referrers "library//app"])) .callers
        (Digest.ofBytes []) "") (.ok listing) := by
  refine ⟨Digest.isValid_ofBytes [], ?_⟩
  rintro ⟨listing, answers⟩
  have invalid : validRepositoryName (ManifestService.withHandlers "library//app" .withDefaults
      (ManifestService.defaultHandlers ++ [.referrers "library//app"])).repository = false := by
    rw [ManifestService.repository_withHandlers]
    decide +kernel
  cases answers.unique (Referrers.enumerate_of_invalid invalid (Digest.ofBytes []))

/-- An artifact about the empty payload is put, and is all that is listed for it. -/
theorem enumerate_complete_bare_artifact :
    ∃ (call : Call) (about : Descriptor) (digest : Digest) (listing : List Descriptor),
      call.request = .putManifest (bareArtifact about) true ∧
      Answers (Call.serveAll ({} : MemoryStore) [call]).2
        (Referrers.enumerate .library .callers about.digest "") (.ok listing) ∧
      listing.map Descriptor.digest = [digest] := by
  obtain ⟨about, path, payload, derived, same, accepts⟩ := exists_accepts_bareArtifact
  let call : Call := ⟨.library, .putManifest (bareArtifact about) true, .none⟩
  have put : call.serve ({} : MemoryStore) = (.manifestPut _ true (.ok payload.digest), _) :=
    MemoryStore.serve_artifact rfl accepts (fun _ => rfl) rfl {}
  have events_eq : (Call.serveAll ({} : MemoryStore) [call]).1 =
      [.manifestPut (bareArtifact about) true (.ok payload.digest)] := by
    simp only [Call.serveAll, put]
  have single {Holds : Call → Prop} (holds : Holds call) : ∀ call' ∈ [call], Holds call' :=
    List.forall_mem_singleton.mpr holds
  have puts : ∃ manifest skip, call.request = .putManifest manifest skip := ⟨_, _, rfl⟩
  have stores : call.request.payload? = some payload.bytes :=
    Request.payload?_putManifest accepts.payload_eq true
  have valid : about.digest.IsValid := same ▸ Digest.isValid_ofBytes []
  have dated : ∀ digest contents payload?,
      PutAbout (Call.serveAll ({} : MemoryStore) [call]).1 about.digest digest contents payload? →
      ∃ created, Referrers.createdAt digest contents = .ok created := by
    rintro digest contents payload? ⟨skip, _, happened, -⟩
    rw [events_eq] at happened
    cases List.mem_singleton.mp happened
    exact ⟨none, rfl⟩
  obtain ⟨succeeds, -⟩ := enumerate_complete (single puts) (single rfl)
    (single (obtained_bareArtifact about)) (injOn_of_single (single stores)) rfl valid dated .callers
  obtain ⟨listing, answers, nodup, digests_iff, -⟩ := succeeds (by decide +kernel)
  refine ⟨call, about, payload.digest, listing, rfl, answers, List.perm_singleton.mp ?_⟩
  rw [List.perm_ext_iff_of_nodup nodup (List.pairwise_singleton _ _)]
  intro digest
  rw [digests_iff, events_eq, List.mem_singleton]
  constructor
  · rintro ⟨manifest, skip, _, happened, -⟩
    cases List.mem_singleton.mp happened
    rfl
  · rintro rfl
    exact ⟨bareArtifact about, true, about, List.mem_singleton_self _, rfl, rfl⟩

end ArtifactRegistry
