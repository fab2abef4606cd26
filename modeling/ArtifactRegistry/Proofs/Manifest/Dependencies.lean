import ArtifactRegistry.Proofs.Manifest.Linking

/-! # Satisfied dependencies stay satisfied

A dependency is satisfied by the blobs of a store when its digest is valid and a blob is there, under a
manifest media type if the dependency must be a manifest, `Dependency.Satisfied`. Verification succeeds
exactly then. Nothing that is asked of a store takes a blob away, and no later put of the same bytes
changes what they were first stored as, so what was verified once can be verified ever after,
`verified_dependencies_stay`.
-/

namespace ArtifactRegistry

open Manifest ArtifactRegistry.Action

namespace Manifest

variable {before after : Blobs} {dependency : Dependency}

/-- What a dependency needs of the blobs of a store. -/
def Dependency.Satisfied (blobs : Blobs) (dependency : Dependency) : Prop :=
  dependency.descriptor.digest.IsValid ∧
    ∃ blob, blobs dependency.descriptor.digest = some blob ∧
      (dependency.kind = .manifest → isManifestMediaType blob.mediaType = true)

/-- Blobs that stay under their media types satisfy no less. -/
theorem Dependency.Satisfied.mono (satisfied : dependency.Satisfied before)
    (retains : before.Retains after) : dependency.Satisfied after := by
  obtain ⟨valid, blob, there, typed⟩ := satisfied
  obtain ⟨bytes, still⟩ := retains _ blob there
  exact ⟨valid, _, still, typed⟩

end Manifest

/-! ## What verification finds -/

section Verification

variable {σ : Type} [Backend σ] [BlobBackend σ]

section Ran

variable [SteadyBackend σ] {world after : World σ} {token : Token} {digest : Digest}

open BlobBackend

/-- A manifest that was found is there under a manifest media type, whatever interferes. -/
theorem ManifestService.exists?_ran (sound : Sound world.store)
    (ran : (exists? token digest).runIn world = (.ok true, after)) :
    ∃ blob, blobs world.store digest = some blob ∧ isManifestMediaType blob.mediaType = true := by
  simp only [exists?, runIn_bind, runIn_outcome] at ran
  generalize asked : (Store.statBlob token digest).runIn world = outcome at ran
  obtain ⟨error | descriptor, middle⟩ := outcome
  · cases error <;> cases ran
  · obtain ⟨blob, there, reported⟩ := SteadyBackend.statBlob_reports sound asked
    obtain ⟨known, -⟩ := Prod.mk.inj ran
    rw [Except.ok.injEq, isManifestMediaType_of_reportedAs reported] at known
    exact ⟨blob, there, known⟩

omit [Backend σ] [BlobBackend σ] [SteadyBackend σ] in
/-- A lookup that fails is never taken for a success. -/
theorem lookupFailure_ran {error : StorageError} {failure : Option VerificationError}
    (ran : (lookupFailure digest error).runIn world = (.ok failure, after)) : failure ≠ none := by
  rintro rfl
  cases error <;> cases ran

/-- A dependency without a failure is satisfied. -/
theorem Manifest.Dependency.failure?_ran {dependency : Dependency} (sound : Sound world.store)
    (ran : (dependency.failure? ManifestService.exists? token).runIn world = (.ok none, after)) :
    dependency.Satisfied (blobs world.store) := by
  simp only [Dependency.failure?] at ran
  cases validates : dependency.descriptor.digest.validate with
  | error reason =>
    rw [validates] at ran
    cases ran
  | ok algorithm =>
  refine ⟨⟨algorithm, validates⟩, ?_⟩
  cases kind_eq : dependency.kind with
  | manifest =>
    simp only [validates, kind_eq, runIn_bind, runIn_outcome] at ran
    generalize asked : (ManifestService.exists? token dependency.descriptor.digest).runIn world =
      outcome at ran
    obtain ⟨error | _ | _, middle⟩ := outcome
    · cases error
      case manifestUnknown => cases ran
      all_goals exact absurd rfl (lookupFailure_ran ran)
    · cases ran
    · obtain ⟨blob, there, known⟩ := ManifestService.exists?_ran sound asked
      exact ⟨blob, there, fun _ => known⟩
  | blob =>
    simp only [validates, kind_eq, runIn_bind, runIn_outcome] at ran
    generalize asked : (Store.statBlob token dependency.descriptor.digest).runIn world =
      outcome at ran
    obtain ⟨error | descriptor, middle⟩ := outcome
    · cases error
      case blobUnknown => cases ran
      all_goals exact absurd rfl (lookupFailure_ran ran)
    · obtain ⟨blob, there, -⟩ := SteadyBackend.statBlob_reports sound asked
      refine ⟨blob, there, fun is => ?_⟩
      cases is

/-- Dependencies without a failure are all satisfied. -/
theorem Manifest.failures_ran {dependencies : List Dependency} (sound : Sound world.store)
    (ran : (failures ManifestService.exists? token dependencies).runIn world = (.ok [], after)) :
    ∀ dependency ∈ dependencies, dependency.Satisfied (blobs world.store) := by
  induction dependencies generalizing world with
  | nil => exact nofun
  | cons dependency rest ih =>
    obtain ⟨fired, looks, looked⟩ := runIn_isCancelled (ε := PutError) token world
    simp only [failures, runIn_bind, looked] at ran
    generalize start_eq : { world with looks } = start at ran
    have same : start.store = world.store := by rw [← start_eq]
    rw [← same] at sound ⊢
    cases fired with
    | true => cases ran
    | false =>
    simp only [Bool.false_eq_true, if_false, runIn_bind] at ran
    generalize first : (dependency.failure? (σ := σ) ManifestService.exists? token).runIn _ =
      outcome at ran
    obtain ⟨error | failure, middle⟩ := outcome
    · cases ran
    simp only at ran
    generalize others : (failures ManifestService.exists? token rest).runIn middle = outcome at ran
    obtain ⟨error | found, ended⟩ := outcome
    · cases ran
    obtain ⟨nothing, rfl⟩ := Prod.mk.inj ran
    rw [Except.ok.injEq, List.append_eq_nil_iff, Option.toList_eq_nil_iff] at nothing
    obtain ⟨rfl, rfl⟩ := nothing
    have unchanged : middle.store = start.store :=
      (dependency.failure?_readOnly ManifestService.exists?_readOnly token).store_eq first
    rw [List.forall_mem_cons]
    refine ⟨Dependency.failure?_ran sound first, ?_⟩
    rw [← unchanged] at sound ⊢
    exact ih sound others

/-- What was verified is satisfied. -/
theorem Manifest.verifyDependencies_ran {variant : Variant} (sound : Sound world.store)
    (ran : (verifyDependencies ManifestService.exists? token variant).runIn world = (.ok (), after)) :
    ∀ dependency ∈ variant.dependencies, dependency.Satisfied (blobs world.store) := by
  simp only [verifyDependencies, runIn_bind] at ran
  generalize looked : (failures ManifestService.exists? token variant.dependencies).runIn world =
    outcome at ran
  obtain ⟨error | found, middle⟩ := outcome
  · cases ran
  · cases found with
    | nil => exact failures_ran sound looked
    | cons failure rest => cases ran

end Ran

section Answers

variable {store : σ} {token : Token}

open BlobBackend

/-- With nothing in the way, a satisfied dependency has no failure. -/
theorem Manifest.Dependency.failure?_answers {dependency : Dependency} (sound : Sound store)
    (satisfied : dependency.Satisfied (blobs store)) :
    Answers store (dependency.failure? ManifestService.exists? token) (.ok none) := by
  apply (dependency.failure?_readOnly ManifestService.exists?_readOnly token).answers
  rintro world rfl calm
  obtain ⟨⟨algorithm, validates⟩, blob, there, typed⟩ := satisfied
  simp only [Dependency.failure?, validates]
  cases kind_eq : dependency.kind with
  | manifest =>
    have known := typed kind_eq
    simp only [runIn_bind, runIn_outcome, ManifestService.exists?_of_calm sound calm token there, known,
      runIn_pure]
  | blob =>
    obtain ⟨descriptor, ran, -⟩ := statBlob_of_some sound calm token there
    simp only [runIn_bind, runIn_outcome, ran, runIn_pure]

theorem Manifest.failures_answers {dependencies : List Dependency} (sound : Sound store)
    (satisfied : ∀ dependency ∈ dependencies, dependency.Satisfied (blobs store)) :
    Answers store (failures ManifestService.exists? token dependencies) (.ok []) := by
  induction dependencies with
  | nil => exact .pure []
  | cons dependency rest ih =>
    obtain ⟨first, others⟩ := List.forall_mem_cons.mp satisfied
    refine (Answers.isCancelled token).bind_ok ?_
    exact (Dependency.failure?_answers sound first).bind_ok ((ih others).bind_ok (.pure _))

/-- With nothing in the way, satisfied dependencies are verified. -/
theorem Manifest.verifyDependencies_answers {variant : Variant} (sound : Sound store)
    (satisfied : ∀ dependency ∈ variant.dependencies, dependency.Satisfied (blobs store)) :
    Answers store (verifyDependencies ManifestService.exists? token variant) (.ok ()) :=
  (failures_answers sound satisfied).bind_ok (.pure ())

end Answers

end Verification

/-! ## What every call keeps -/

section Run

variable {σ : Type} [Backend σ] [BlobBackend σ] [SteadyBackend σ]

open BlobBackend

/-- A put of a manifest takes no blob away and changes no media type. -/
theorem ManifestService.put_retains {service : ManifestService} {token : Token} {manifest : Manifest}
    {skip : Bool} {world after : World σ} {result : Except PutError Digest}
    (sound : Sound world.store)
    (ran : (service.put token manifest skip).runIn world = (result, after)) :
    Sound after.store ∧ (blobs world.store).Retains (blobs after.store) := by
  obtain ⟨error, -, same⟩ | ⟨handler, inCharge, went⟩ := ManifestService.putRun ran
  · rw [same]
    exact ⟨sound, .refl _⟩
  cases went with
  | refused error same =>
    rw [same]
    exact ⟨sound, .refl _⟩
  | unstored accepts start_eq failed ends =>
    rw [← start_eq] at sound ⊢
    rw [ends]
    exact SteadyBackend.putBlob_retains sound failed
  | stored accepts start_eq took ends =>
    rw [← start_eq] at sound ⊢
    rw [ends]
    exact SteadyBackend.putBlob_retains sound took
  | linked accepts start_eq took continues linking ends =>
    rw [← start_eq] at sound ⊢
    obtain ⟨sound', retains⟩ := SteadyBackend.putBlob_retains sound took
    obtain ⟨repository, about, -, -, derived⟩ := accepts.linked
    rw [← continues] at sound' retains
    obtain ⟨sound'', same⟩ := addLink_ran sound' derived linking
    rw [ends, same]
    exact ⟨sound'', retains⟩

theorem Call.serve_retains (call : Call) {store : σ} (sound : Sound store) :
    Sound (call.serve store).2 ∧ (blobs store).Retains (blobs (call.serve store).2) := by
  obtain ⟨service, request, interference⟩ := call
  let world : World σ := { store, interference }
  have sound : Sound world.store := sound
  cases request with
  | putBlob mediaType payload =>
    have ran : (Store.putBlob .callers mediaType payload).runIn world = (_, _) := rfl
    exact SteadyBackend.putBlob_retains sound ran
  | putManifest manifest skip =>
    have ran : (service.put .callers manifest skip).runIn world = (_, _) := rfl
    exact ManifestService.put_retains sound ran

/-- Whatever is asked of a store, its blobs stay under their media types. -/
theorem Call.serveAll_retains (calls : List Call) {store : σ} (sound : Sound store) :
    Sound (serveAll store calls).2 ∧ (blobs store).Retains (blobs (serveAll store calls).2) := by
  induction calls generalizing store with
  | nil => exact ⟨sound, .refl _⟩
  | cons call rest ih =>
    obtain ⟨sound', first⟩ := call.serve_retains sound
    obtain ⟨sound'', others⟩ := ih sound'
    exact ⟨sound'', first.trans others⟩

/-- A put that was answered with a digest and did not skip the dependencies has found them satisfied. -/
theorem Call.satisfied_of_serve {call : Call} {store : σ} (sound : Sound store) {manifest : Manifest}
    {digest : Digest} (put : (call.serve store).1 = .manifestPut manifest false (.ok digest)) :
    ∀ dependency ∈ manifest.variant.dependencies, dependency.Satisfied (blobs store) := by
  obtain ⟨service, request, interference⟩ := call
  cases request with
  | putBlob mediaType payload => cases put
  | putManifest manifest' skip =>
    simp only [Call.serve] at put
    generalize ran : (service.put (σ := σ) .callers manifest' skip).runIn _ = outcome at put
    obtain ⟨result, ended⟩ := outcome
    cases put
    obtain ⟨start, ended', same, verified⟩ := ManifestService.put_verifies ran
    change start.store = store at same
    rw [← same] at sound ⊢
    exact verifyDependencies_ran sound verified

end Run

/-- The calls before and after one call are served one after the other. -/
theorem Call.serveAll_append {σ : Type} [Backend σ] (store : σ) (first second : List Call) :
    (serveAll store (first ++ second)).2 = (serveAll (serveAll store first).2 second).2 := by
  induction first generalizing store with
  | nil => rfl
  | cons call rest ih => exact ih (call.serve store).2

/-- Both backends are steady, and start in order. -/
theorem StartsEmpty.steady {σ : Type} {backend : Backend σ} {start : σ}
    (empty : StartsEmpty σ backend start) :
    ∃ _ : BlobBackend σ, SteadyBackend σ ∧ BlobBackend.Sound start := by
  cases empty with
  | memory => exact ⟨inferInstance, inferInstance, trivial⟩
  | files root => exact ⟨inferInstance, inferInstance, (FileStore.sound_empty root).1⟩

/-- Whatever was asked of a store that was empty at first, and however it was interfered with: when a
put that verifies dependencies was answered with a digest, then whatever is asked afterwards, the
dependencies of the manifest can be verified again. -/
theorem verified_dependencies_stay {σ : Type} [backend : Backend σ] {start : σ}
    (empty : StartsEmpty σ backend start) (before later : List Call) {call : Call}
    {manifest : Manifest} {digest : Digest}
    (put : (call.serve (Call.serveAll start before).2).1 = .manifestPut manifest false (.ok digest))
    (token : Token) :
    Answers (Call.serveAll start (before ++ call :: later)).2
      (verifyDependencies ManifestService.exists? token manifest.variant) (.ok ()) := by
  obtain ⟨_, _, initial⟩ := empty.steady
  obtain ⟨sound, -⟩ := Call.serveAll_retains before initial
  have satisfied := Call.satisfied_of_serve sound put
  obtain ⟨sound', retains⟩ := Call.serveAll_retains (call :: later) sound
  rw [Call.serveAll_append]
  apply verifyDependencies_answers sound'
  intro dependency member
  exact (satisfied dependency member).mono retains

/-- An index is put that lists content stored as an index. The content is put as a plain text later, and
the index can still be verified. -/
theorem verified_dependencies_stay_indexed :
    ∃ (first call last : Call) (manifest : Manifest) (digest : Digest),
      first.request = .putBlob Kind.index.mediaType [] ∧ last.request = .putBlob "text/plain" [] ∧
      (call.serve (Call.serveAll ({} : MemoryStore) [first]).2).1 =
        .manifestPut manifest false (.ok digest) ∧
      (∃ dependency ∈ manifest.variant.dependencies, dependency.kind = .manifest ∧
        dependency.descriptor.digest = Digest.ofBytes []) ∧
      Answers (Call.serveAll ({} : MemoryStore) ([first] ++ call :: [last])).2
        (verifyDependencies ManifestService.exists? .callers manifest.variant) (.ok ()) := by
  let reference : Descriptor := { mediaType := Kind.index.mediaType, digest := Digest.ofBytes [] }
  let variant : Variant := .index { mediaType := Kind.index.mediaType, manifests := [reference] }
  let manifest : Manifest := ⟨variant, some variant.canonicalPayload⟩
  let dependency : Dependency := ⟨reference, .manifest⟩
  have dependencies_eq : variant.dependencies = [dependency] := by
    have kind_eq : Dependency.ofReference reference = dependency := by
      rw [Dependency.ofReference, isManifestMediaType_mediaType]
      rfl
    rw [← kind_eq]
    rfl
  let first : Call := ⟨.library, .putBlob Kind.index.mediaType [], .none⟩
  let call : Call := ⟨.library, .putManifest manifest false, .none⟩
  let last : Call := ⟨.library, .putBlob "text/plain" [], .none⟩
  let store : MemoryStore := ({} : MemoryStore).put Kind.index.mediaType []
  obtain ⟨descriptor, took⟩ :=
    MemoryStore.serve_putBlob_of_calm .library Kind.index.mediaType [] {}
  have stored : (Call.serveAll ({} : MemoryStore) [first]).2 = store := by
    simp only [Call.serveAll, first, took, store]
  have satisfied : dependency.Satisfied store.blob? :=
    ⟨Digest.isValid_ofBytes [], _, MemoryStore.blob?_put_of_none rfl Kind.index.mediaType,
      fun _ => isManifestMediaType_mediaType .index⟩
  have verified : Answers store
      (verifyDependencies ManifestService.exists? .callers manifest.variant) (.ok ()) := by
    apply verifyDependencies_answers trivial
    change ∀ needed ∈ variant.dependencies, _
    rw [dependencies_eq, List.forall_mem_singleton]
    exact satisfied
  have accepts : (Handler.plain .index).Accepts manifest variant.canonicalPayload none :=
    ⟨rfl, Variant.mediaTypeMatches_iff.mpr (.inl rfl), rfl, rfl⟩
  have inCharge : ManifestService.library.handlers manifest.kind = some (.plain .index) := rfl
  obtain ⟨after, served⟩ :=
    MemoryStore.serve_putManifest_of_verified inCharge accepts (.inr verified)
  have put : (call.serve (Call.serveAll ({} : MemoryStore) [first]).2).1 =
      .manifestPut manifest false (.ok variant.canonicalPayload.digest) := by
    rw [stored, served]
  refine ⟨first, call, last, manifest, _, rfl, rfl, put, ⟨dependency, ?_, rfl, rfl⟩,
    verified_dependencies_stay .memory [first] [last] put .callers⟩
  change dependency ∈ variant.dependencies
  rw [dependencies_eq]
  exact List.mem_singleton_self dependency

end ArtifactRegistry
