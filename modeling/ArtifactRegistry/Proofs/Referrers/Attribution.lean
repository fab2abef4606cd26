import ArtifactRegistry.Proofs.Manifest.Linking

/-! # Links and the artifacts that they lead to

In every state that puts can lead to, a link leads to an artifact about the subject whose set it is in,
`links_attributed`, although files show a set under other names than its link path as well,
`listed_under_other_name`. The other way round there is a gap: the medium can fail between the payload
of an artifact and its link, and then the artifact stays where it is without the link,
`kept_without_link`. Only a put that failed like this, and was not put again with success, leaves an
artifact unlinked, `kept_linked`.
-/

namespace ArtifactRegistry

open Manifest ArtifactRegistry.Action

/-- The bytes under a digest are those of an artifact about a subject, and hash to the digest. -/
def HasArtifact {σ : Type} [Backend σ] (store : σ) (digest : Digest) (about : Descriptor) : Prop :=
  ∃ bytes manifest, HasBlob store digest bytes ∧ Digest.ofBytes bytes = digest ∧
    parse .artifact bytes = .ok manifest ∧ manifest.variant.subject? = some about

section Run

variable {σ : Type} [Backend σ] [LinkBackend σ] {payloads : Set Bytes} {past events : List Event}
  {repository path : String} {store after : σ} {digest : Digest} {about : Descriptor}

open BlobBackend LinkBackend

theorem Kept.hasArtifact_iff (kept : Kept payloads events store) :
    HasArtifact store digest about ↔ KeepsArtifact store digest about := by
  constructor
  · rintro ⟨bytes, manifest, has, -, parsed, subject⟩
    obtain ⟨blob, there, rfl⟩ := (hasBlob_iff kept.sound).mp has
    exact ⟨blob, manifest, there, parsed, subject⟩
  · rintro ⟨blob, manifest, there, parsed, subject⟩
    have has : HasBlob store digest blob.bytes := (hasBlob_iff kept.sound).mpr ⟨blob, there, rfl⟩
    exact ⟨blob.bytes, manifest, has, (kept.digest_eq there).1.symm, parsed, subject⟩

/-- A link leads to an artifact about the subject whose set it is in. -/
theorem KeptLinks.hasArtifact (kept : KeptLinks payloads repository events store)
    (has : HasLink store path digest) :
    ∃ about derived, HasArtifact store digest about ∧
      referrersLinkPath repository about.digest = .ok derived ∧ SamePath σ path derived := by
  obtain ⟨about, derived, keeps, rest⟩ := kept.attributed path digest (has.mem_links kept.tidy)
  exact ⟨about, derived, kept.hasArtifact_iff.mpr keeps, rest⟩

end Run

/-- Whatever was asked of a store that was empty at first, and however it was interfered with: what is
listed in a set is the digest of an artifact that the store returns, and the set is that of the subject
of the artifact. In memory the set has no other name than the link path of the subject, and in files no
other name of plain parts. Any other name in files that leads further down leads where the link path
leads. -/
theorem links_attributed {calls : List Call} {repository : String}
    (artifactsIn : ∀ call ∈ calls, call.service.ArtifactsIn repository)
    (obtained : ∀ call ∈ calls, call.request.Obtained)
    (injective : Set.InjOn Digest.ofBytes
      {payload | ∃ call ∈ calls, call.request.payload? = some payload}) :
    (∀ path digest, HasLink (Call.serveAll ({} : MemoryStore) calls).2 path digest →
      ∃ about, HasArtifact (Call.serveAll ({} : MemoryStore) calls).2 digest about ∧
        referrersLinkPath repository about.digest = .ok path) ∧
    (∀ root path digest, FileTree.Path.IsPlain path →
      HasLink (Call.serveAll (⟨root, .empty⟩ : FileStore) calls).2 path digest →
      ∃ about, HasArtifact (Call.serveAll (⟨root, .empty⟩ : FileStore) calls).2 digest about ∧
        referrersLinkPath repository about.digest = .ok path) ∧
    ∀ root path digest, FileTree.Path.LeadsDown path →
      HasLink (Call.serveAll (⟨root, .empty⟩ : FileStore) calls).2 path digest →
      ∃ about derived, HasArtifact (Call.serveAll (⟨root, .empty⟩ : FileStore) calls).2 digest about ∧
        referrersLinkPath repository about.digest = .ok derived ∧
        FileTree.Path.ofText path = FileTree.Path.ofText derived := by
  have inFiles (root : String) := KeptLinks.serveAll (FileStore.vacant repository root) artifactsIn
    injective obtained fun call called payload stores => ⟨call, called, stores⟩
  refine ⟨?memory, ?plain, ?down⟩
  case memory =>
    intro path digest has
    have kept := KeptLinks.serveAll (MemoryStore.vacant repository) artifactsIn injective obtained
      fun call called payload stores => ⟨call, called, stores⟩
    obtain ⟨about, _, artifact, derived, rfl⟩ := kept.hasArtifact has
    exact ⟨about, artifact, derived⟩
  case plain =>
    intro root path digest plain has
    obtain ⟨about, link, artifact, derived, same⟩ := (inFiles root).hasArtifact has
    have path_eq : path = link := plain.eq_of_ofText_eq (isPlain_of_derived derived) same
    exact ⟨about, artifact, path_eq ▸ derived⟩
  case down =>
    -- That the path leads down keeps texts out whose place is not modelled.
    intro root path digest _ has
    exact (inFiles root).hasArtifact has

/-- The empty payload as a subject. -/
def bareAbout : Descriptor := { digest := bareSubject }

theorem exists_path_bareAbout : ∃ path, referrersLinkPath "library" bareAbout.digest = .ok path :=
  referrersLinkPath_of_valid (by decide +kernel) ⟨_, validate_bareSubject⟩

/-- In files, the artifact is linked under the link path of its subject. -/
theorem exists_hasLink_bareAbout {path : String}
    (derived : referrersLinkPath "library" bareAbout.digest = .ok path) :
    ∃ digest, HasLink (Call.serveAll (⟨"", .empty⟩ : FileStore) [bareCall bareAbout]).2 path digest := by
  have succeeds : ((ManifestService.library.put .callers (bareArtifact bareAbout) true).runIn
      { store := (⟨"", .empty⟩ : FileStore) }).1.isOk = true := by decide +kernel
  obtain ⟨digest, stored⟩ := exists_eq_ok_of_isOk succeeds
  exact ⟨digest, hasLink_bareCall (FileStore.vacant "library" "") derived stored⟩

/-- An artifact about the empty payload is put, and listed for it. -/
theorem links_attributed_bare_artifact : ∃ (path : String) (digest digest' : Digest),
    referrersLinkPath "library" bareAbout.digest = .ok path ∧
    HasLink (Call.serveAll ({} : MemoryStore) [bareCall bareAbout]).2 path digest ∧
    (∃ about, HasArtifact (Call.serveAll ({} : MemoryStore) [bareCall bareAbout]).2 digest about ∧
      referrersLinkPath "library" about.digest = .ok path) ∧
    HasLink (Call.serveAll (⟨"", .empty⟩ : FileStore) [bareCall bareAbout]).2 path digest' ∧
    ∃ about, HasArtifact (Call.serveAll (⟨"", .empty⟩ : FileStore) [bareCall bareAbout]).2 digest'
        about ∧
      referrersLinkPath "library" about.digest = .ok path := by
  obtain ⟨path, derived⟩ := exists_path_bareAbout
  have linked := hasLink_bareCall (MemoryStore.vacant "library") derived
    (MemoryStore.put_bareArtifact derived)
  obtain ⟨digest', linked'⟩ := exists_hasLink_bareAbout derived
  have artifactsIn : ∀ call ∈ [bareCall bareAbout], call.service.ArtifactsIn "library" :=
    List.forall_mem_singleton.mpr ManifestService.artifactsIn_library
  have obtained : ∀ call ∈ [bareCall bareAbout], call.request.Obtained :=
    List.forall_mem_singleton.mpr (obtained_bareArtifact bareAbout)
  have single : ∀ call ∈ [bareCall bareAbout], call.request.payload? = some _ :=
    List.forall_mem_singleton.mpr
      (Request.payload?_putManifest (accepts_bareArtifact derived).payload_eq true)
  obtain ⟨inMemory, inFiles, -⟩ := links_attributed artifactsIn obtained (injOn_of_single single)
  exact ⟨path, _, digest', derived, linked, inMemory path _ linked, linked',
    inFiles "" path digest' (isPlain_of_derived derived) linked'⟩

/-- In files, the same artifact is also listed under a name with a dot in front, which is no link path
of any subject. -/
theorem listed_under_other_name : ∃ (path : String) (digest : Digest),
    referrersLinkPath "library" bareAbout.digest = .ok path ∧
    HasLink (Call.serveAll (⟨"", .empty⟩ : FileStore) [bareCall bareAbout]).2 ("." ++ "/" ++ path)
      digest ∧
    ∀ repository subject, referrersLinkPath repository subject ≠ .ok ("." ++ "/" ++ path) := by
  obtain ⟨path, derived⟩ := exists_path_bareAbout
  obtain ⟨digest, linked⟩ := exists_hasLink_bareAbout derived
  have here : FileTree.Path.ofText "." = [] := by decide +kernel
  have same : FileTree.Path.ofText ("." ++ "/" ++ path) = FileTree.Path.ofText path := by
    rw [FileTree.Path.ofText_slash (isPlain_of_derived derived).no_dots, here, List.nil_append]
  refine ⟨path, digest, derived, FileStore.hasLink_of_ofText_eq linked same, ?_⟩
  intro repository subject derived'
  have dot : "." ∈ Text.splitAll '/' ("." ++ "/" ++ path) := by
    rw [Text.splitAll_slash]
    exact List.mem_append_left _ (by decide +kernel)
  exact (isPlain_of_derived derived' "." dot).2.1 rfl

/-! ## Artifacts without their link -/

/-- A put of some bytes failed because of the medium, and none has succeeded. -/
structure Interrupted (events : List Event) (digest : Digest) : Prop where
  failed : ∃ manifest skip payload source, manifest.payload = .ok payload ∧ payload.digest = digest ∧
    .manifestPut manifest skip (.error (.storage (.medium source))) ∈ events
  never {manifest : Manifest} {skip : Bool} : .manifestPut manifest skip (.ok digest) ∉ events

/-- Another event does not matter unless it is a success. -/
theorem Interrupted.append {past : List Event} {event : Event} {digest : Digest}
    (interrupted : Interrupted past digest)
    (other : ∀ manifest skip, event ≠ .manifestPut manifest skip (.ok digest)) :
    Interrupted (past ++ [event]) digest := by
  obtain ⟨⟨manifest, skip, payload, source, payload_eq, digest_eq, happened⟩, never⟩ := interrupted
  refine ⟨⟨manifest, skip, payload, source, payload_eq, digest_eq, List.mem_append_left _ happened⟩, ?_⟩
  intro manifest skip happened
  rcases List.mem_append.mp happened with before | now
  · exact never before
  · exact other manifest skip (List.mem_singleton.mp now).symm

theorem Interrupted.append_failure {past : List Event} {digest : Digest}
    (interrupted : Interrupted past digest) (manifest : Manifest) (skip : Bool) (error : PutError) :
    Interrupted (past ++ [.manifestPut manifest skip (.error error)]) digest := by
  apply interrupted.append
  rintro _ _ ⟨⟩

section Run

variable {σ : Type} [Backend σ] [LinkBackend σ] {payloads : Set Bytes} {past events : List Event}
  {repository path : String} {store after : σ} {digest : Digest} {about : Descriptor}

open BlobBackend LinkBackend

/-- An artifact that is kept is that of the put, or was kept before. -/
theorem KeepsPayload.artifact {manifest : Manifest} {payload : Payload}
    (keeps : KeepsPayload manifest payload store after) (obtained : manifest.Obtained)
    (genuine : (blobs store).Genuine payload.bytes) (artifact : KeepsArtifact after digest about) :
    digest = payload.digest ∧ manifest.variant.subject? = some about ∨
      digest ≠ payload.digest ∧ KeepsArtifact store digest about := by
  obtain ⟨blob, read, there, parsed, has⟩ := artifact
  rw [keeps.blobs_eq] at there
  by_cases is : digest = payload.digest
  · subst is
    obtain ⟨_, there', bytes_eq⟩ := genuine.put_self manifest.kind.mediaType
    cases there.symm.trans there'
    have reread := obtained.reread keeps.payload_eq keeps.mediaTypeMatches
    rw [← bytes_eq] at reread
    rw [← kind_unique parsed reread] at reread
    cases parsed.symm.trans reread
    exact .inl ⟨rfl, has⟩
  · rcases Blobs.put_eq_some there with before | ⟨same, -⟩
    · exact .inr ⟨is, blob, read, before, parsed, has⟩
    · exact absurd same is

/-- What holds of a store when only manifests were put: manifests that were put are kept, and artifacts
are linked, unless every put of their bytes was given up on. -/
structure KeptWhole (payloads : Set Bytes) (repository : String) (events : List Event) (store : σ) :
    Prop extends KeptLinks payloads repository events store where
  puts {event : Event} (happened : event ∈ events) :
    ∃ manifest skip result, event = .manifestPut manifest skip result
  answered {manifest : Manifest} {skip : Bool} {digest : Digest}
    (happened : .manifestPut manifest skip (.ok digest) ∈ events) :
    ∃ blob payload, blobs store digest = some blob ∧ manifest.payload = .ok payload ∧
      blob.bytes = payload.bytes ∧ parse manifest.kind blob.bytes = .ok manifest
  linked {digest : Digest} {about : Descriptor} (artifact : KeepsArtifact store digest about) :
    (∃ path, referrersLinkPath repository about.digest = .ok path ∧ digest ∈ links store path) ∨
      Interrupted events digest

namespace KeptWhole

variable {manifest : Manifest} {skip : Bool} {result : Except PutError Digest}

/-- A put that is answered with a digest has kept the manifest under it. -/
theorem answered_of_put (kept : KeptWhole payloads repository past store)
    (obtained : manifest.Obtained)
    (genuine : ∀ payload, manifest.payload = .ok payload → (blobs store).Genuine payload.bytes)
    (put : PutLinks repository manifest store after result) {other : Manifest} {skip' : Bool}
    (happened : .manifestPut other skip' (.ok digest) ∈ past ++ [.manifestPut manifest skip result]) :
    ∃ blob payload, blobs after digest = some blob ∧ other.payload = .ok payload ∧
      blob.bytes = payload.bytes ∧ parse other.kind blob.bytes = .ok other := by
  have kept_now {payload : Payload} (keeps : KeepsPayload manifest payload store after) :
      ∃ blob payload', blobs after payload.digest = some blob ∧ manifest.payload = .ok payload' ∧
        blob.bytes = payload'.bytes ∧ parse manifest.kind blob.bytes = .ok manifest := by
    obtain ⟨blob, there, bytes_eq⟩ :=
      (genuine payload keeps.payload_eq).put_self manifest.kind.mediaType
    refine ⟨blob, payload, ?_, keeps.payload_eq, bytes_eq, ?_⟩
    · rw [keeps.blobs_eq]
      exact there
    · rw [bytes_eq]
      exact obtained.reread keeps.payload_eq keeps.mediaTypeMatches
  rcases List.mem_append.mp happened with before | now
  · obtain ⟨blob, payload, there, rest⟩ := kept.answered before
    exact ⟨blob, payload, put.grown digest blob there, rest⟩
  · cases List.mem_singleton.mp now
    cases put with
    | stored keeps unrelated links_eq => exact kept_now keeps
    | linked keeps has derived links_iff => exact kept_now keeps

/-- After a put, an artifact is linked, or every put of its bytes was given up on. -/
theorem linked_of_put (kept : KeptWhole payloads repository past store)
    (obtained : manifest.Obtained)
    (genuine : ∀ payload, manifest.payload = .ok payload → (blobs store).Genuine payload.bytes)
    (put : PutLinks repository manifest store after result)
    (artifact : KeepsArtifact after digest about) :
    (∃ path, referrersLinkPath repository about.digest = .ok path ∧ digest ∈ links after path) ∨
      Interrupted (past ++ [.manifestPut manifest skip result]) digest := by
  cases put with
  | refused error blobs_eq links_eq =>
    rw [KeepsArtifact, blobs_eq] at artifact
    rw [links_eq]
    exact (kept.linked artifact).imp_right (·.append_failure manifest skip _)
  | @stored payload keeps unrelated links_eq =>
    rcases keeps.artifact obtained (genuine payload keeps.payload_eq) artifact with
      ⟨rfl, has⟩ | ⟨differs, before⟩
    · rw [unrelated] at has
      cases has
    · rw [links_eq]
      refine (kept.linked before).imp_right fun interrupted => interrupted.append ?_
      rintro _ _ ⟨⟩
      exact differs rfl
  | @unlinked payload about' source keeps has links_eq =>
    rw [links_eq]
    -- Only an artifact that is new can have lost its link just now.
    cases there : blobs store digest with
    | some blob =>
      have before : KeepsArtifact store digest about := by
        obtain ⟨blob', read, there', rest⟩ := artifact
        rw [keeps.blobs_eq, Blobs.put_of_some there] at there'
        exact ⟨blob', read, there.trans there', rest⟩
      exact (kept.linked before).imp_right (·.append_failure manifest skip _)
    | none =>
      rcases keeps.artifact obtained (genuine payload keeps.payload_eq) artifact with
        ⟨rfl, -⟩ | ⟨-, blob, _, before, -⟩
      · refine .inr ⟨⟨manifest, skip, payload, source, keeps.payload_eq, rfl, by simp⟩, ?_⟩
        intro other skip' happened
        rcases List.mem_append.mp happened with before | now
        · obtain ⟨blob, _, before, -⟩ := kept.answered before
          cases there.symm.trans before
        · cases List.mem_singleton.mp now
      · cases there.symm.trans before
  | @linked payload about' path keeps has derived links_iff =>
    rcases keeps.artifact obtained (genuine payload keeps.payload_eq) artifact with
      ⟨rfl, has'⟩ | ⟨differs, before⟩
    · cases has.symm.trans has'
      exact .inl ⟨path, derived, (links_iff _ _).mpr (.inr ⟨samePath_refl path, rfl⟩)⟩
    · refine (kept.linked before).imp ?_ fun interrupted => interrupted.append ?_
      · rintro ⟨path', derived', there⟩
        exact ⟨path', derived', (links_iff _ _).mpr (.inl there)⟩
      · rintro _ _ ⟨⟩
        exact differs rfl

/-- Serving a put of a manifest keeps it up. -/
theorem serve {call : Call} (puts : ∃ manifest skip, call.request = .putManifest manifest skip)
    (artifactsIn : call.service.ArtifactsIn repository)
    (injective : Set.InjOn Digest.ofBytes payloads) (obtained : call.request.Obtained)
    (member : ∀ payload, call.request.payload? = some payload → payload ∈ payloads)
    (past : List Event) (store : σ) (kept : KeptWhole payloads repository past store) :
    KeptWhole payloads repository (past ++ [(call.serve store).1]) (call.serve store).2 := by
  have links := kept.toKeptLinks.serve artifactsIn injective obtained member past store
  obtain ⟨service, request, interference⟩ := call
  obtain ⟨manifest, skip, request_eq⟩ := puts
  cases request_eq
  simp only [Call.serve] at links ⊢
  generalize ran : (service.put (σ := σ) .callers manifest skip).runIn _ = outcome at links ⊢
  obtain ⟨result, ended⟩ := outcome
  have genuine (payload : Payload) (payload_eq : manifest.payload = .ok payload) :=
    kept.genuine injective (member payload.bytes (Request.payload?_putManifest payload_eq skip))
  obtain ⟨-, -, put⟩ := ManifestService.put_links artifactsIn kept.sound kept.tidy genuine ran
  refine ⟨links, ?_, kept.answered_of_put obtained genuine put,
    kept.linked_of_put obtained genuine put⟩
  intro event happened
  rcases List.mem_append.mp happened with before | now
  · exact kept.puts before
  · exact ⟨manifest, skip, result, List.mem_singleton.mp now⟩

theorem of_vacant (vacant : Vacant repository store) : KeptWhole payloads repository [] store := by
  refine ⟨.of_vacant vacant, nofun, nofun, ?_⟩
  rintro digest about ⟨blob, manifest, there, -⟩
  rw [vacant.blobs_eq] at there
  cases there

/-- Whatever manifests are put into a store that keeps nothing, it keeps them whole. -/
theorem serveAll (vacant : Vacant repository store) {calls : List Call}
    (puts : ∀ call ∈ calls, ∃ manifest skip, call.request = .putManifest manifest skip)
    (artifactsIn : ∀ call ∈ calls, call.service.ArtifactsIn repository)
    (injective : Set.InjOn Digest.ofBytes payloads) (obtained : ∀ call ∈ calls, call.request.Obtained)
    (member : ∀ call ∈ calls, ∀ payload, call.request.payload? = some payload → payload ∈ payloads) :
    KeptWhole payloads repository (Call.serveAll store calls).1 (Call.serveAll store calls).2 :=
  Call.serveAll_preserves
    (fun call called => KeptWhole.serve (puts call called) (artifactsIn call called) injective
      (obtained call called) (member call called))
    [] (.of_vacant vacant)

/-- An artifact that was put is kept as an artifact. -/
theorem artifact_of_answered (kept : KeptWhole payloads repository events store)
    (happened : .manifestPut manifest skip (.ok digest) ∈ events)
    (has : manifest.variant.subject? = some about) :
    ∃ blob payload, blobs store digest = some blob ∧ blob.mediaType = Kind.artifact.mediaType ∧
      manifest.payload = .ok payload ∧ blob.bytes = payload.bytes ∧
      parse .artifact blob.bytes = .ok manifest := by
  obtain ⟨blob, payload, there, payload_eq, bytes_eq, reread⟩ := kept.answered happened
  have kind_eq : manifest.kind = .artifact := Variant.kind_of_subject? has
  rw [kind_eq] at reread
  refine ⟨blob, payload, there, ?_, payload_eq, bytes_eq, reread⟩
  rcases kept.explained there with ⟨_, put⟩ | ⟨kind, _, mediaType_eq, parsed⟩
  · obtain ⟨_, _, _, other⟩ := kept.puts put
    cases other
  · rw [← mediaType_eq, kind_unique parsed reread]

end KeptWhole

end Run

/-- When only manifests were put into a store that was empty at first: an artifact that the store
returns is linked to its subject, unless a put of it failed because of the medium and none has succeeded
since. -/
theorem kept_linked {σ : Type} [backend : Backend σ] {start : σ}
    (empty : StartsEmpty σ backend start) {calls : List Call} {repository : String}
    (puts : ∀ call ∈ calls, ∃ manifest skip, call.request = .putManifest manifest skip)
    (artifactsIn : ∀ call ∈ calls, call.service.ArtifactsIn repository)
    (obtained : ∀ call ∈ calls, call.request.Obtained)
    (injective : Set.InjOn Digest.ofBytes
      {payload | ∃ call ∈ calls, call.request.payload? = some payload}) {digest : Digest}
    {about : Descriptor} (has : HasArtifact (Call.serveAll start calls).2 digest about) :
    (∃ path, referrersLinkPath repository about.digest = .ok path ∧
        HasLink (Call.serveAll start calls).2 path digest) ∨
      Interrupted (Call.serveAll start calls).1 digest := by
  obtain ⟨_, vacant⟩ := empty.vacant repository
  have kept := KeptWhole.serveAll vacant puts artifactsIn injective obtained
    fun call called payload stores => ⟨call, called, stores⟩
  apply (kept.linked (kept.hasArtifact_iff.mp has)).imp_left
  rintro ⟨path, derived, there⟩
  exact ⟨path, derived, (hasLink_iff kept.tidy derived).mpr there⟩

/-- The bytes of an artifact that is kept are those of the artifact. -/
theorem MemoryStore.hasArtifact_of_blob {manifest : Manifest} (obtained : manifest.Obtained)
    {handler : Handler} {payload : Payload} {path : String}
    (accepts : handler.Accepts manifest payload (some path)) {about : Descriptor}
    (has : manifest.variant.subject? = some about) {store : MemoryStore} {mediaType : String}
    (there : store.blob? payload.digest = some ⟨mediaType, payload.bytes⟩) :
    HasArtifact store payload.digest about := by
  have kind_eq : manifest.kind = .artifact := Variant.kind_of_subject? has
  refine ⟨payload.bytes, manifest, (hasBlob_iff trivial).mpr ⟨_, there, rfl⟩, rfl, ?_, has⟩
  rw [← kind_eq]
  exact obtained.reread accepts.payload_eq accepts.mediaTypeMatches

/-- The medium loses the link of an artifact, and the artifact is put again. -/
theorem kept_linked_again :
    ∃ (lost again : Call) (about : Descriptor) (path : String) (digest : Digest),
      lost.request = .putManifest (bareArtifact about) true ∧
      again.request = .putManifest (bareArtifact about) true ∧
      lost.interference.fails 2 = true ∧
      referrersLinkPath "library" about.digest = .ok path ∧
      HasLink (Call.serveAll ({} : MemoryStore) [lost, again]).2 path digest := by
  obtain ⟨about, path, payload, derived, -, accepts⟩ := exists_accepts_bareArtifact
  let lost : Call := ⟨.library, .putManifest (bareArtifact about) true, .planned (some 2) none⟩
  let again : Call := ⟨.library, .putManifest (bareArtifact about) true, .none⟩
  have first : lost.serve ({} : MemoryStore) = (.manifestPut _ true (.error _), _) :=
    MemoryStore.serve_artifact rfl accepts (fun _ => rfl) rfl {}
  have second (store : MemoryStore) : again.serve store = (.manifestPut _ true (.ok payload.digest),
      (store.put (bareArtifact about).kind.mediaType payload.bytes).addLink path payload.digest) :=
    MemoryStore.serve_artifact rfl accepts (fun _ => rfl) rfl store
  have both {Holds : Call → Prop} (holds : Holds lost) (holds' : Holds again) :
      ∀ call ∈ [lost, again], Holds call :=
    List.forall_mem_cons.mpr ⟨holds, List.forall_mem_singleton.mpr holds'⟩
  have stores := Request.payload?_putManifest accepts.payload_eq true
  have has : HasArtifact (Call.serveAll ({} : MemoryStore) [lost, again]).2 payload.digest about := by
    apply MemoryStore.hasArtifact_of_blob (obtained_bareArtifact about) accepts rfl
    simp only [Call.serveAll, first, second, MemoryStore.blob?_addLink]
    exact MemoryStore.blob?_put_of_some (MemoryStore.blob?_put_of_none rfl _)
  have library := ManifestService.artifactsIn_library
  have sealed := obtained_bareArtifact about
  refine ⟨lost, again, about, path, payload.digest, rfl, rfl, rfl, derived, ?_⟩
  obtain ⟨_, derived', linked⟩ | interrupted :=
    kept_linked .memory (both ⟨_, _, rfl⟩ ⟨_, _, rfl⟩) (both library library) (both sealed sealed)
      (injOn_of_single (both stores stores)) has
  · cases derived.symm.trans derived'
    exact linked
  · have happened : .manifestPut (bareArtifact about) true (.ok payload.digest) ∈
        (Call.serveAll ({} : MemoryStore) [lost, again]).1 := by
      simp only [Call.serveAll, first, second, List.mem_cons, true_or, or_true]
    exact absurd happened interrupted.never

/-- The medium loses the link of an artifact about the empty payload. The artifact is kept all the same,
and is not listed for its subject. -/
theorem kept_without_link :
    ∃ (call : Call) (about : Descriptor) (digest : Digest) (path : String),
      call.service = .library ∧ call.request = .putManifest (bareArtifact about) true ∧
      (∀ number, call.interference.fails number = true ↔ number = 2) ∧
      HasArtifact (Call.serveAll ({} : MemoryStore) [call]).2 digest about ∧
      referrersLinkPath "library" about.digest = .ok path ∧
      ¬ HasLink (Call.serveAll ({} : MemoryStore) [call]).2 path digest := by
  obtain ⟨about, path, payload, derived, -, accepts⟩ := exists_accepts_bareArtifact
  let call : Call := ⟨.library, .putManifest (bareArtifact about) true, .planned (some 2) none⟩
  have put : call.serve ({} : MemoryStore) = (.manifestPut _ true (.error _), _) :=
    MemoryStore.serve_artifact rfl accepts (fun _ => rfl) rfl {}
  have store_eq : (Call.serveAll ({} : MemoryStore) [call]).2 =
      ({} : MemoryStore).put (bareArtifact about).kind.mediaType payload.bytes := by
    simp only [Call.serveAll, put]
  refine ⟨call, about, payload.digest, path, rfl, rfl, ?_, ?_, derived, ?_⟩
  · intro number
    simp [call, Interference.planned, eq_comm]
  · rw [store_eq]
    apply MemoryStore.hasArtifact_of_blob (obtained_bareArtifact about) accepts rfl
    exact MemoryStore.blob?_put_of_none rfl _
  · rw [store_eq]
    intro has
    have tidy : LinkBackend.Tidy "library"
      (({} : MemoryStore).put (bareArtifact about).kind.mediaType payload.bytes) := trivial
    have there : payload.digest ∈ (({} : MemoryStore).put _ _).members path := has.mem_links tidy
    rw [MemoryStore.members_put] at there
    cases there

end ArtifactRegistry
