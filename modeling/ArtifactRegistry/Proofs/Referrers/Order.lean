import ArtifactRegistry.Proofs.Referrers.Lookup

/-! # The order of a listing

A listing is put in order by a stable sort: the latest first, entries of the same time in link
order, and those without a time at the end, `LatestFirst`. A stable sort goes together with
selecting, `mergeSort_filter`, because what is sorted falls into the items before and after any
given one. So a listing shows the entries of the linked digests and no others in this order,
`enumerate_exact`, and a listing of one type is what the listing of all types shows of this type,
`enumerate_filter`.
-/

namespace ArtifactRegistry

open Manifest ArtifactRegistry.Action

/-! ## Stable sorting -/

section Sorting

variable {α : Type} {le : α → α → Bool}
  (trans : ∀ a b c, le a b = true → le b c = true → le a c = true)
  (total : ∀ a b, (le a b || le b a) = true)

include trans total

/-- Sorting inserts the first item before the items that may stand behind it, which come last. -/
theorem mergeSort_cons_eq (first : α) (rest : List α) :
    (first :: rest).mergeSort le = (rest.mergeSort le).filter (fun item => !le first item) ++
        first :: (rest.mergeSort le).filter (le first) ∧
      rest.mergeSort le = (rest.mergeSort le).filter (fun item => !le first item) ++
        (rest.mergeSort le).filter (le first) := by
  obtain ⟨before, behind, sorted, others, smaller⟩ := List.mergeSort_cons trans total first rest
  have ascending := List.pairwise_mergeSort trans total (first :: rest)
  rw [sorted, List.pairwise_append, List.pairwise_cons] at ascending
  obtain ⟨-, ⟨larger, -⟩, -⟩ := ascending
  have before_eq : (before ++ behind).filter (fun item => !le first item) = before := by
    rw [List.filter_append, List.filter_eq_self.mpr smaller, List.filter_eq_nil_iff.mpr,
      List.append_nil]
    intro item member
    simp [larger item member]
  have behind_eq : (before ++ behind).filter (le first) = behind := by
    rw [List.filter_append, List.filter_eq_self.mpr larger, List.filter_eq_nil_iff.mpr,
      List.nil_append]
    intro item member
    simpa using smaller item member
  rw [others, before_eq, behind_eq]
  exact ⟨sorted, rfl⟩

/-- A stable sort goes together with selecting. -/
theorem mergeSort_filter (selects : α → Bool) (items : List α) :
    (items.filter selects).mergeSort le = (items.mergeSort le).filter selects := by
  induction items with
  | nil => simp
  | cons first rest ih =>
    obtain ⟨sorted, others⟩ := mergeSort_cons_eq trans total first (rest.filter selects)
    rw [(mergeSort_cons_eq trans total first rest).1, List.filter_append, List.filter_cons,
      List.filter_cons, List.filter_comm selects, List.filter_comm selects, ← ih]
    cases selects first with
    | true => exact sorted
    | false => exact others

end Sorting

namespace Referrers

/-! ## Orders of entries -/

/-- An entry was not created before another. -/
def Entry.NotBefore (entry other : Entry) : Prop :=
  ∀ time time', entry.created = some time → other.created = some time' →
    time'.seconds < time.seconds ∨ time.seconds = time'.seconds ∧ time'.nanos ≤ time.nanos

/-- All entries that have a creation time, the latest first. Where times are equal, the order is
kept. -/
structure LatestFirst (entries listed : List Entry) : Prop where
  perm : listed.Perm (entries.filter fun entry => entry.created.isSome)
  descending : listed.Pairwise Entry.NotBefore
  stable (time : Timestamp) : (listed.filter fun entry => entry.created = some time) =
    entries.filter fun entry => entry.created = some time

/-- A listing has the dated entries in order, and then the others. -/
theorem arrange_latest_first (entries : List Entry) : ∃ listed, LatestFirst entries listed ∧
    arrange entries =
      (listed ++ entries.filter fun entry => entry.created.isNone).map Entry.descriptor := by
  refine ⟨_, ?_, arrange_eq entries⟩
  constructor
  · rw [← map_dated]
    exact (List.mergeSort_perm _ _).map _
  · rw [List.pairwise_map]
    apply (List.pairwise_mergeSort notBefore_trans notBefore_total _).imp
    rintro a b ordered _ _ ⟨⟩ ⟨⟩
    exact notBefore_iff.mp ordered
  · intro time
    have at_time : (fun entry : Entry => decide (entry.created = some time)) ∘
        (fun pair : Timestamp × Descriptor => ⟨some pair.1, pair.2⟩) =
          fun pair => decide (pair.1 = time) := by
      funext pair
      simp
    -- Entries of one time are in order as they are.
    have unmoved : ((dated entries).filter fun pair => pair.1 = time).Pairwise
        fun a b => notBefore a b = true := by
      apply List.pairwise_of_forall_mem_list
      intro a first b second
      have same := (List.mem_filter.mp first).2
      have same' := (List.mem_filter.mp second).2
      rw [decide_eq_true_iff] at same same'
      rw [notBefore_iff, same, same']
      exact .inr ⟨rfl, Nat.le_refl _⟩
    rw [List.filter_map, at_time, ← mergeSort_filter notBefore_trans notBefore_total,
      List.mergeSort_of_pairwise unmoved, ← at_time, ← List.filter_map, map_dated,
      List.filter_filter]
    apply List.filter_congr
    intro entry member
    cases entry.created <;> simp

theorem dated_filter (selects : Descriptor → Bool) (entries : List Entry) :
    dated (entries.filter fun entry => selects entry.descriptor) =
      (dated entries).filter fun pair => selects pair.2 := by
  induction entries with
  | nil => rfl
  | cons entry rest ih =>
    obtain ⟨created, descriptor⟩ := entry
    cases created <;> cases selected : selects descriptor <;> simp_all [dated]

/-- A listing of some entries has them as the listing of all does. -/
theorem arrange_filter (selects : Descriptor → Bool) (entries : List Entry) :
    arrange (entries.filter fun entry => selects entry.descriptor) =
      (arrange entries).filter selects := by
  have split (entries : List Entry) : arrange entries =
      ((dated entries).mergeSort notBefore).map Prod.snd ++
        (entries.filter fun entry => entry.created.isNone).map Entry.descriptor := rfl
  rw [split, split, dated_filter, mergeSort_filter notBefore_trans notBefore_total,
    List.filter_comm, List.filter_append, List.filter_map, List.filter_map]
  rfl

/-! ## What is listed -/

section Enumerate

variable {σ : Type} [Backend σ] {service : ManifestService} {token : Token} {store : σ}
  {subject : Digest} {artifactType : String} {listing : List Descriptor}

/-- A listing shows the linked digests that are artifacts of the type, each with its entry, and
passes the others over. The dated entries come first and in order, and the others follow in link
order. -/
structure ExactListing (service : ManifestService) (token : Token) (store : σ) (subject : Digest)
    (artifactType : String) (listing : List Descriptor) (linked : List Digest)
    (found? : Digest → Option Entry) (listed : List Entry) : Prop where
  links : Answers store (digests service.repository token subject) (.ok linked)
  found {referrer : Digest} (member : referrer ∈ linked) : ∃ got reported,
    Answers store (service.get token referrer) got ∧
    Answers store (Store.statBlob token referrer) reported ∧
    (∀ entry, found? referrer = some entry ↔ Shows artifactType referrer got reported entry) ∧
    (found? referrer = none ↔ PassedOver artifactType got)
  about {referrer : Digest} (member : referrer ∈ linked) {entry : Entry}
    (shown : found? referrer = some entry) : entry.descriptor.digest = referrer
  digests_perm : (listing.map Descriptor.digest).Perm
    (linked.filter fun referrer => (found? referrer).isSome)
  latest_first : LatestFirst (linked.filterMap found?) listed
  listing_eq : listing = (listed ++
    (linked.filterMap found?).filter fun entry => entry.created.isNone).map Entry.descriptor

/-- Steps that succeed together find what each of them does. -/
theorem exists_found {linked : List Digest} {answer : Digest → Except ReferrersError (Option Entry)}
    {found : List (Option Entry)} (ran : linked.mapM answer = .ok found) :
    ∃ found? : Digest → Option Entry,
      (∀ referrer ∈ linked, answer referrer = .ok (found? referrer)) ∧
      found.flatMap Option.toList = linked.filterMap found? := by
  choose! found? answers using fun referrer (member : referrer ∈ linked) =>
    exists_ok_of_mapM ran member
  refine ⟨found?, answers, ?_⟩
  rw [mapM_congr answers] at ran
  have found_eq : found = linked.map found? :=
    (Except.ok.inj ((List.mapM_pure (m := Except ReferrersError)).symm.trans ran)).symm
  rw [found_eq, List.flatMap_map, ← List.filterMap_eq_flatMap_toList]

/-- Entries that are about their digests show those that have one. -/
theorem map_digest_filterMap {linked : List Digest} {found? : Digest → Option Entry}
    (about : ∀ referrer ∈ linked, ∀ {entry : Entry}, found? referrer = some entry →
      entry.descriptor.digest = referrer) :
    (linked.filterMap found?).map (fun entry => entry.descriptor.digest) =
      linked.filter fun referrer => (found? referrer).isSome := by
  induction linked with
  | nil => rfl
  | cons referrer rest ih =>
    obtain ⟨first, others⟩ := List.forall_mem_cons.mp about
    rw [List.filterMap_cons, List.filter_cons]
    cases found : found? referrer with
    | none => simpa using ih others
    | some entry => simpa [first found] using ih others

/-! ## Listings of any store -/

section Listings

variable [LookupBackend σ] {world after : World σ}

/-- Whatever is in the stores and whatever interferes, a listing that succeeds shows the linked
digests that are artifacts of the type and no others, in order, and leaves the stores alone. -/
theorem enumerate_exact
    (ran : (enumerate service token subject artifactType).runIn world = (.ok listing, after)) :
    (∃ linked found? listed, ExactListing service token world.store subject artifactType listing
      linked found? listed) ∧ after.store = world.store := by
  obtain ⟨answers, kept⟩ :=
    (enumerate_consistent service token subject artifactType).answers_of_ok ran
  refine ⟨?_, kept⟩
  obtain ⟨got, reported, gets, reports⟩ := exists_lookups service token world.store
  obtain ⟨linked, found, links, found_eq, rfl⟩ := (enumerate_ok_iff gets reports).mp answers
  obtain ⟨found?, finds, entries_eq⟩ := exists_found found_eq
  rw [entries_eq]
  obtain ⟨listed, latest_first, listing_eq⟩ := arrange_latest_first (linked.filterMap found?)
  have about (referrer : Digest) (member : referrer ∈ linked) {entry : Entry}
      (shown : found? referrer = some entry) : entry.descriptor.digest = referrer := by
    have shows := finds referrer member
    rw [shown, entryOf_eq_some_iff] at shows
    obtain ⟨stored, reported_eq, digest_eq⟩ := shows.digest_eq
    exact digest_eq.trans (Store.digest_of_statBlob (reported_eq ▸ reports referrer))
  refine ⟨linked, found?, listed, links, ?_, about _, ?_, latest_first, listing_eq⟩
  · intro referrer member
    refine ⟨got referrer, reported referrer, gets referrer, reports referrer, fun entry => ?_, ?_⟩
    · rw [← entryOf_eq_some_iff, finds referrer member, Except.ok.injEq]
    · rw [← entryOf_eq_none_iff, finds referrer member, Except.ok.injEq]
  · rw [← map_digest_filterMap about, ← Function.comp_def, ← List.map_map]
    exact (perm_arrange _).map Descriptor.digest

/-- What a listing of all types shows of one type is the listing of this type. -/
theorem enumerate_filter
    (ran : (enumerate service token subject "").runIn world = (.ok listing, after))
    (specific : artifactType ≠ "") :
    Answers world.store (enumerate service token subject artifactType)
      (.ok (listing.filter fun descriptor => descriptor.artifactType = some artifactType)) := by
  obtain ⟨answers, -⟩ := (enumerate_consistent service token subject "").answers_of_ok ran
  obtain ⟨got, reported, gets, reports⟩ := exists_lookups service token world.store
  obtain ⟨linked, found, links, found_eq, rfl⟩ := (enumerate_ok_iff gets reports).mp answers
  let selects (descriptor : Descriptor) : Bool := descriptor.artifactType = some artifactType
  refine (enumerate_ok_iff gets reports).mpr
    ⟨linked, found.map (Option.filter fun entry => selects entry.descriptor), links, ?_, ?_⟩
  · rw [mapM_eq_ok_iff, List.forall₂_map_right_iff]
    exact (mapM_eq_ok_iff.mp found_eq).imp fun referrer entry ran => entryOf_filter ran specific
  · rw [← arrange_filter selects, List.filter_flatMap, List.flatMap_map]
    congr 1
    apply List.flatMap_congr
    intro found? member
    rw [Option.toList_filter]

end Listings

/-! ## A store with four links -/

/-- A digest with one digit only. -/
def plainDigest (digit : Char) : Digest := ⟨"sha256:" ++ String.ofList (List.replicate 64 digit)⟩

theorem plainDigest_text_inj {digit digit' : Char} :
    (plainDigest digit).text = (plainDigest digit').text ↔ digit = digit' := by
  simp [plainDigest]

/-- An artifact with a type, with a creation time or without. -/
def typedArtifact (artifactType : String) (created? : Option String) : Artifact where
  mediaType := Kind.artifact.mediaType
  artifactType := some artifactType
  annotations := .ofList (created?.toList.map fun time => ("io.cncf.oras.artifact.created", time))

theorem createdAt_typedArtifact_none (digest : Digest) (artifactType : String) :
    createdAt digest (typedArtifact artifactType none) = .ok none := rfl

theorem createdAt_typedArtifact_some {text : String} {time : Timestamp}
    (parsed : Timestamp.parse text = .ok time) (digest : Digest) (artifactType : String) :
    createdAt digest (typedArtifact artifactType (some text)) = .ok (some time) := by
  simp [createdAt, createdAnnotations, typedArtifact, SortedMap.ofList, SortedMap.contains,
    SortedMap.get?_insert, parsed]

/-- How an artifact is stored. -/
def storedArtifact (contents : Artifact) : StoredBlob where
  mediaType := Kind.artifact.mediaType
  bytes := (Variant.artifact contents).canonicalPayload.bytes

/-- An undated artifact, two artifacts of the same time, and a link to nothing. -/
def mixedStore : MemoryStore where
  blobs := .ofList [((plainDigest 'a').text, storedArtifact (typedArtifact "sbom" none)),
    ((plainDigest 'b').text,
      storedArtifact (typedArtifact "signature" (some "2022-01-01T00:00:00Z"))),
    ((plainDigest 'c').text,
      storedArtifact (typedArtifact "signature" (some "2022-01-01T01:00:00+01:00")))]
  links :=
    match referrersLinkPath "library" (Digest.ofBytes []) with
    | .ok path =>
      .ofList [(path, [plainDigest 'a', plainDigest 'd', plainDigest 'c', plainDigest 'b'])]
    | .error _ => ∅

theorem blob?_mixedStore (digit : Char) : mixedStore.blob? (plainDigest digit) =
    if digit = 'c' then
      some (storedArtifact (typedArtifact "signature" (some "2022-01-01T01:00:00+01:00")))
    else if digit = 'b' then
      some (storedArtifact (typedArtifact "signature" (some "2022-01-01T00:00:00Z")))
    else if digit = 'a' then some (storedArtifact (typedArtifact "sbom" none))
    else none := by
  simp [MemoryStore.blob?, mixedStore, SortedMap.ofList, SortedMap.get?_insert,
    plainDigest_text_inj]

/-- A stored artifact has an entry. -/
theorem findEntry_storedArtifact {memory : MemoryStore} {digest : Digest} {contents : Artifact}
    (there : memory.blob? digest = some (storedArtifact contents))
    (declared : contents.mediaType = Kind.artifact.mediaType) {created : Option Timestamp}
    (dated : createdAt digest contents = .ok created) : ∃ descriptor,
    Answers memory (findEntry .library .callers "" digest) (.ok (some ⟨created, descriptor⟩)) ∧
      descriptor.digest = digest ∧ descriptor.artifactType = contents.artifactType := by
  have standard : ManifestService.library.Standard :=
    ManifestService.standard_withHandlers "library" _
  have fits : (Variant.artifact contents).mediaTypeMatches = true :=
    Variant.mediaTypeMatches_iff.mpr (.inl declared)
  have found : BlobBackend.blobs memory digest = some (storedArtifact contents) := there
  have got := ManifestService.get_answers standard trivial found rfl (parse_canonical fits) .callers
  have stated := memory.statBlob_answers .callers digest
  rw [there] at stated
  exact ⟨_, answers_entry got stated dated rfl, rfl, rfl⟩

/-- A link to nothing has no entry. -/
theorem findEntry_vacant {memory : MemoryStore} {digest : Digest}
    (vacant : memory.blob? digest = none) :
    Answers memory (findEntry .library .callers "" digest) (.ok none) := by
  have stated := memory.statBlob_answers .callers digest
  rw [vacant] at stated
  have missing : Answers memory (ManifestService.library.get .callers digest)
      (.error (.manifestUnknown digest)) :=
    stated.outcome.bind_ok (Answers.throw _).bind_error
  exact findEntry_answers missing stated

theorem entries_cons_answers {rest : List Digest} {found : Option Entry} {others : List Entry}
    (first : Answers store (findEntry service token artifactType referrer) (.ok found))
    (listed : Answers store (entries service token artifactType rest) (.ok others)) :
    Answers store (entries service token artifactType (referrer :: rest))
      (.ok (found.toList ++ others)) :=
  first.bind_ok (listed.bind_ok (.pure _))

theorem digests_mixedStore : Answers mixedStore (digests "library" .callers (Digest.ofBytes []))
    (.ok [plainDigest 'a', plainDigest 'd', plainDigest 'c', plainDigest 'b']) := by
  have named : validRepositoryName "library" = true := by decide +kernel
  obtain ⟨path, derived⟩ := referrersLinkPath_of_valid named (Digest.isValid_ofBytes [])
  have links := MemoryStore.digests_answers .callers mixedStore derived
  have members_eq : mixedStore.members path =
      [plainDigest 'a', plainDigest 'd', plainDigest 'c', plainDigest 'b'] := by
    simp [MemoryStore.members, mixedStore, derived, SortedMap.ofList, SortedMap.get?_insert]
  rwa [members_eq] at links

/-- The artifacts of the same time are listed in link order, and the undated one after them. -/
theorem mixedStore_listed : ∃ listing after,
    (enumerate .library .callers (Digest.ofBytes []) "").runIn { store := mixedStore } =
      (.ok listing, after) ∧
    listing.map (fun descriptor => (descriptor.digest, descriptor.artifactType)) =
      [(plainDigest 'c', some "signature"), (plainDigest 'b', some "signature"),
        (plainDigest 'a', some "sbom")] := by
  have time : Timestamp.parse "2022-01-01T00:00:00Z" = .ok ⟨1640995200, 0⟩ := by decide +kernel
  have shifted : Timestamp.parse "2022-01-01T01:00:00+01:00" = .ok ⟨1640995200, 0⟩ := by
    decide +kernel
  obtain ⟨a, a_answers, a_digest, a_type⟩ :=
    findEntry_storedArtifact (blob?_mixedStore 'a') rfl (createdAt_typedArtifact_none _ _)
  obtain ⟨b, b_answers, b_digest, b_type⟩ :=
    findEntry_storedArtifact (blob?_mixedStore 'b') rfl (createdAt_typedArtifact_some time _ _)
  obtain ⟨c, c_answers, c_digest, c_type⟩ :=
    findEntry_storedArtifact (blob?_mixedStore 'c') rfl (createdAt_typedArtifact_some shifted _ _)
  have d_answers := findEntry_vacant (blob?_mixedStore 'd')
  have none_left : Answers mixedStore (entries .library .callers "" []) (.ok []) := .pure []
  have loaded := entries_cons_answers a_answers <| entries_cons_answers d_answers <|
    entries_cons_answers c_answers <| entries_cons_answers b_answers none_left
  have lists : Answers mixedStore (enumerate .library .callers (Digest.ofBytes []) "") _ :=
    (Answers.record _ _ _).bind_ok (digests_mixedStore.bind_ok (loaded.bind_ok (.pure _)))
  obtain ⟨after, ran, -⟩ := lists { store := mixedStore } rfl rfl
  have unmoved : [((⟨1640995200, 0⟩ : Timestamp), c), (⟨1640995200, 0⟩, b)].Pairwise
      fun first second => notBefore first second = true := by
    simp [notBefore_iff]
  have arranged : arrange [⟨none, a⟩, ⟨some ⟨1640995200, 0⟩, c⟩, ⟨some ⟨1640995200, 0⟩, b⟩] =
      [c, b, a] :=
    congrArg (fun sorted => sorted.map Prod.snd ++ [a]) (List.mergeSort_of_pairwise unmoved)
  refine ⟨_, after, ran, ?_⟩
  simp only [Option.toList, List.nil_append, List.cons_append, arranged, List.map_cons,
    List.map_nil, a_digest, b_digest, c_digest, a_type, b_type, c_type, typedArtifact]

/-- What is shown of an undated artifact, two artifacts of the same time, and a link to nothing. -/
theorem enumerate_exact_mixed : ∃ listing after linked found? listed,
    (enumerate .library .callers (Digest.ofBytes []) "").runIn { store := mixedStore } =
      (.ok listing, after) ∧
    listing.map Descriptor.digest = [plainDigest 'c', plainDigest 'b', plainDigest 'a'] ∧
    linked = [plainDigest 'a', plainDigest 'd', plainDigest 'c', plainDigest 'b'] ∧
    ExactListing .library .callers mixedStore (Digest.ofBytes []) "" listing linked found?
      listed := by
  obtain ⟨listing, after, ran, shown⟩ := mixedStore_listed
  obtain ⟨⟨linked, found?, listed, shows⟩, -⟩ := enumerate_exact ran
  have linked_eq := Except.ok.inj (shows.links.unique digests_mixedStore)
  have digests_eq := congrArg (List.map Prod.fst) shown
  rw [List.map_map] at digests_eq
  exact ⟨listing, after, linked, found?, listed, ran, digests_eq, linked_eq, shows⟩

/-- Of an undated artifact and two of the same time, one type is listed. -/
theorem enumerate_filter_mixed : ∃ listing after,
    (enumerate .library .callers (Digest.ofBytes []) "").runIn { store := mixedStore } =
      (.ok listing, after) ∧ "signature" ≠ "" ∧
    (listing.filter fun descriptor => descriptor.artifactType = some "signature").map
      Descriptor.digest = [plainDigest 'c', plainDigest 'b'] ∧
    Answers mixedStore (enumerate .library .callers (Digest.ofBytes []) "signature")
      (.ok (listing.filter fun descriptor => descriptor.artifactType = some "signature")) := by
  obtain ⟨listing, after, ran, shown⟩ := mixedStore_listed
  have specific : "signature" ≠ "" := by decide
  have filtered := enumerate_filter ran specific
  have selected := congrArg
    (fun shown => (shown.filter fun pair => pair.2 = some "signature").map Prod.fst) shown
  rw [List.filter_map, List.map_map] at selected
  exact ⟨listing, after, ran, specific, selected, filtered⟩

end Enumerate

end Referrers

end ArtifactRegistry
