import ArtifactRegistry.Proofs.Manifest.Dependencies

/-! # What verification reports

Verification goes through the references of a manifest in document order, with a look at the token
before each. A reference with a malformed digest is not looked up; any other is looked up in the
store that it belongs to, and is there, is not there, or could not be looked up,
`Dependency.Finds`. Either all references are gone through, `Surveyed`, or before that the token has
fired or a lookup was cancelled, `Abandoned`. A survey ends with the failures that it has found, one
for each reference that is not there; what is abandoned is cancelled and reports nothing:
`verifyDependencies_exact`.
-/

namespace ArtifactRegistry

open ArtifactRegistry.Action

namespace Manifest

variable {σ : Type} [Backend σ] {lookUp : Lookup σ} {token : Token} {world after : World σ}

/-! ## Which store is asked -/

/-- The references of a manifest in order. Those with a manifest media type must be manifests, and
so must the last reference of an artifact with a subject, which is the subject. -/
theorem Variant.dependencies_eq (variant : Variant) :
    variant.dependencies = variant.references.mapIdx fun i reference =>
      ⟨reference, if isManifestMediaType reference.mediaType ∨
        variant.subject?.isSome ∧ i + 1 = variant.references.length then .manifest else .blob⟩ := by
  cases variant with
  | image contents =>
    apply List.ext_getElem (by simp [dependencies])
    intro i _ _
    simp [dependencies, subject?, Dependency.ofReference]
  | index contents =>
    apply List.ext_getElem (by simp [dependencies])
    intro i _ _
    simp [dependencies, subject?, Dependency.ofReference]
  | artifact contents =>
    cases about : contents.subject with
    | none =>
      apply List.ext_getElem (by simp [dependencies, references, about])
      intro i _ _
      simp [dependencies, references, subject?, Dependency.ofReference, about]
    | some subject =>
      simp only [dependencies, references, subject?, about, Option.toList, List.map_cons,
        List.map_nil, List.mapIdx_concat]
      congr 1
      · apply List.ext_getElem (by simp)
        intro i inside _
        simp only [List.length_map] at inside
        simp [Dependency.ofReference, Nat.ne_of_lt inside]
      · simp

/-! ## Findings -/

/-- What comes out about a reference. -/
inductive Finding where
  | malformed (reason : DigestError)
  | present
  | absent
  | failed (error : StorageError)

/-- What a store of manifests says with an answer. -/
def Finding.ofManifests : Except StorageError Bool → Finding
  | .ok true => present
  | .ok false | .error (.manifestUnknown _) => absent
  | .error error => failed error

/-- What a store of blobs says with an answer. -/
def Finding.ofBlobs : Except StorageError Descriptor → Finding
  | .ok _ => present
  | .error (.blobUnknown _) => absent
  | .error error => failed error

/-- What the failure of a reference is reported as. -/
def Dependency.reported (dependency : Dependency) : Finding → Option VerificationError
  | .present => none
  | .malformed reason => some (.invalidDigest dependency.descriptor.digest reason)
  | .absent => some <|
    match dependency.kind with
    | .manifest => .manifestUnknown dependency.descriptor.digest
    | .blob => .blobUnknown dependency.descriptor.digest
  | .failed error => some (.lookupFailed dependency.descriptor.digest error.message)

/-- The failures of several references, in order. -/
def report (dependencies : List Dependency) (findings : List Finding) : List VerificationError :=
  (dependencies.zip findings).filterMap fun (dependency, finding) => dependency.reported finding

theorem Dependency.reported_eq_none_iff {dependency : Dependency} {finding : Finding} :
    dependency.reported finding = none ↔ finding = .present := by
  cases finding <;> simp [reported]

/-- A reference is looked up in one world, which ends as another. A malformed digest is not looked
up, a manifest is in the store of manifests only, and a blob in the store of blobs. -/
inductive Dependency.Finds (lookUp : Lookup σ) (token : Token) (dependency : Dependency)
    (world : World σ) : Finding → World σ → Prop
  | malformed {reason : DigestError}
      (invalid : dependency.descriptor.digest.validate = .error reason) :
      Finds lookUp token dependency world (.malformed reason) world
  | manifest {answer : Except StorageError Bool} {after : World σ}
      (valid : dependency.descriptor.digest.IsValid) (kind_eq : dependency.kind = .manifest)
      (ran : (lookUp token dependency.descriptor.digest).runIn world = (answer, after)) :
      Finds lookUp token dependency world (.ofManifests answer) after
  | blob {answer : Except StorageError Descriptor} {after : World σ}
      (valid : dependency.descriptor.digest.IsValid) (kind_eq : dependency.kind = .blob)
      (ran : (Store.statBlob token dependency.descriptor.digest).runIn world = (answer, after)) :
      Finds lookUp token dependency world (.ofBlobs answer) after

/-- References are gone through one after the other. The token is live whenever it is looked at, and
no lookup is cancelled. -/
inductive Surveyed (lookUp : Lookup σ) (token : Token) :
    List Dependency → World σ → List Finding → Prop
  | nil (world : World σ) : Surveyed lookUp token [] world []
  | cons {dependency : Dependency} {rest : List Dependency} {world looked middle : World σ}
      {finding : Finding} {findings : List Finding}
      (live : (isCancelled token : Action σ PutError Bool).runIn world = (.ok false, looked))
      (finds : dependency.Finds lookUp token looked finding middle)
      (uncancelled : finding ≠ .failed .cancelled)
      (others : Surveyed lookUp token rest middle findings) :
      Surveyed lookUp token (dependency :: rest) world (finding :: findings)

/-- Before all references are gone through, the token has fired or a lookup is cancelled. -/
inductive Abandoned (lookUp : Lookup σ) (token : Token) : List Dependency → World σ → Prop
  | fired {dependency : Dependency} {rest : List Dependency} {world looked : World σ}
      (fired : (isCancelled token : Action σ PutError Bool).runIn world = (.ok true, looked)) :
      Abandoned lookUp token (dependency :: rest) world
  | cancelled {dependency : Dependency} {rest : List Dependency} {world looked middle : World σ}
      (live : (isCancelled token : Action σ PutError Bool).runIn world = (.ok false, looked))
      (finds : dependency.Finds lookUp token looked (.failed .cancelled) middle) :
      Abandoned lookUp token (dependency :: rest) world
  | later {dependency : Dependency} {rest : List Dependency} {world looked middle : World σ}
      {finding : Finding}
      (live : (isCancelled token : Action σ PutError Bool).runIn world = (.ok false, looked))
      (finds : dependency.Finds lookUp token looked finding middle)
      (uncancelled : finding ≠ .failed .cancelled)
      (others : Abandoned lookUp token rest middle) :
      Abandoned lookUp token (dependency :: rest) world

/-! ## One reference -/

variable {dependency : Dependency} {finding : Finding}

/-- Every reference is looked up in one of the ways. -/
theorem Dependency.exists_finds (lookUp : Lookup σ) (token : Token) (dependency : Dependency)
    (world : World σ) : ∃ finding after, dependency.Finds lookUp token world finding after := by
  cases validates : dependency.descriptor.digest.validate with
  | error reason => exact ⟨_, _, .malformed validates⟩
  | ok algorithm =>
    cases kind_eq : dependency.kind with
    | manifest => exact ⟨_, _, .manifest ⟨algorithm, validates⟩ kind_eq rfl⟩
    | blob => exact ⟨_, _, .blob ⟨algorithm, validates⟩ kind_eq rfl⟩

/-- A lookup that is cancelled cancels the verification; any other ends with its entry. -/
theorem Dependency.failure?_of_finds (finds : dependency.Finds lookUp token world finding after) :
    (finding = .failed .cancelled →
      (dependency.failure? lookUp token).runIn world = (.error .cancelled, after)) ∧
    (finding ≠ .failed .cancelled → (dependency.failure? lookUp token).runIn world =
      (.ok (dependency.reported finding), after)) := by
  cases finds with
  | malformed invalid =>
    simp only [failure?, invalid]
    refine ⟨fun is => ?_, fun _ => rfl⟩
    cases is
  | @manifest answer after valid kind_eq ran =>
    obtain ⟨algorithm, validates⟩ := valid
    simp only [failure?, validates, kind_eq, runIn_bind, runIn_outcome, ran]
    rcases answer with error | _ | _
    · cases error <;> simp [Finding.ofManifests, lookupFailure, reported, kind_eq]
    · simp [Finding.ofManifests, reported, kind_eq]
    · simp [Finding.ofManifests, reported]
  | @blob answer after valid kind_eq ran =>
    obtain ⟨algorithm, validates⟩ := valid
    simp only [failure?, validates, kind_eq, runIn_bind, runIn_outcome, ran]
    rcases answer with error | descriptor
    · cases error <;> simp [Finding.ofBlobs, lookupFailure, reported, kind_eq]
    · simp [Finding.ofBlobs, reported]

/-! ## All references -/

variable {dependencies : List Dependency} {findings : List Finding}

/-- References are gone through, or that is abandoned. -/
theorem surveyed_or_abandoned (lookUp : Lookup σ) (token : Token) (dependencies : List Dependency)
    (world : World σ) : (∃ findings, Surveyed lookUp token dependencies world findings) ∨
      Abandoned lookUp token dependencies world := by
  induction dependencies generalizing world with
  | nil => exact .inl ⟨[], .nil world⟩
  | cons dependency rest ih =>
    obtain ⟨fired, looks, looked⟩ := runIn_isCancelled (ε := PutError) token world
    cases fired with
    | true => exact .inr (.fired looked)
    | false =>
      obtain ⟨finding, middle, finds⟩ := dependency.exists_finds lookUp token { world with looks }
      by_cases cancelled : finding = .failed .cancelled
      · subst cancelled
        exact .inr (.cancelled looked finds)
      · rcases ih middle with ⟨findings, others⟩ | others
        · exact .inl ⟨finding :: findings, .cons looked finds cancelled others⟩
        · exact .inr (.later looked finds cancelled others)

/-- A survey finds the failures that are reported. -/
theorem Surveyed.failures_eq (surveyed : Surveyed lookUp token dependencies world findings) :
    ∃ after, (failures lookUp token dependencies).runIn world =
      (.ok (report dependencies findings), after) := by
  induction surveyed with
  | nil world => exact ⟨world, rfl⟩
  | @cons dependency rest world looked middle finding findings live finds uncancelled others ih =>
    obtain ⟨after, ran⟩ := ih
    have first := (Dependency.failure?_of_finds finds).2 uncancelled
    refine ⟨after, ?_⟩
    simp only [failures, runIn_bind, live, Bool.false_eq_true, if_false, runIn_pure, first, ran,
      report, List.zip_cons_cons, List.filterMap_cons]
    cases dependency.reported finding <;> rfl

/-- What is abandoned finds nothing. -/
theorem Abandoned.failures_eq (abandoned : Abandoned lookUp token dependencies world) :
    ∃ after, (failures lookUp token dependencies).runIn world = (.error .cancelled, after) := by
  induction abandoned with
  | fired fired =>
    simp only [failures, runIn_bind, fired, if_true, runIn_throw]
    exact ⟨_, rfl⟩
  | cancelled live finds =>
    have first := (Dependency.failure?_of_finds finds).1 rfl
    simp only [failures, runIn_bind, live, Bool.false_eq_true, if_false, first]
    exact ⟨_, rfl⟩
  | later live finds uncancelled others ih =>
    obtain ⟨after, ran⟩ := ih
    have first := (Dependency.failure?_of_finds finds).2 uncancelled
    simp only [failures, runIn_bind, live, Bool.false_eq_true, if_false, first, ran]
    exact ⟨_, rfl⟩

/-- There is nothing to report exactly when every reference is there. -/
theorem Surveyed.report_eq_nil_iff (surveyed : Surveyed lookUp token dependencies world findings) :
    report dependencies findings = [] ↔ ∀ finding ∈ findings, finding = .present := by
  induction surveyed with
  | nil world => simp [report]
  | cons live finds uncancelled others ih =>
    rw [List.forall_mem_cons, ← ih, ← Dependency.reported_eq_none_iff]
    simp only [report, List.zip_cons_cons, List.filterMap_cons]
    cases Dependency.reported _ _ <;> simp

/-! ## With nothing in the way -/

/-- With nothing in the way, a lookup in a store has this finding and leaves the store alone. -/
def Dependency.FoundIn (lookUp : Lookup σ) (token : Token) (store : σ) (dependency : Dependency)
    (finding : Finding) : Prop :=
  ∀ world, world.store = store → world.interference = .none →
    ∃ after, dependency.Finds lookUp token world finding after ∧ after.store = store ∧
      after.interference = .none

theorem Dependency.FoundIn.malformed {store : σ} {reason : DigestError}
    (invalid : dependency.descriptor.digest.validate = .error reason) :
    dependency.FoundIn lookUp token store (.malformed reason) :=
  fun world same calm => ⟨world, .malformed invalid, same, calm⟩

theorem Dependency.FoundIn.manifest {store : σ} {answer : Except StorageError Bool}
    (valid : dependency.descriptor.digest.IsValid) (kind_eq : dependency.kind = .manifest)
    (answers : Answers store (lookUp token dependency.descriptor.digest) answer) :
    dependency.FoundIn lookUp token store (.ofManifests answer) := by
  intro world same calm
  obtain ⟨after, ran, kept⟩ := answers world same calm
  exact ⟨after, .manifest valid kind_eq ran, kept⟩

theorem Dependency.FoundIn.blob {store : σ} {answer : Except StorageError Descriptor}
    (valid : dependency.descriptor.digest.IsValid) (kind_eq : dependency.kind = .blob)
    (answers : Answers store (Store.statBlob token dependency.descriptor.digest) answer) :
    dependency.FoundIn lookUp token store (.ofBlobs answer) := by
  intro world same calm
  obtain ⟨after, ran, kept⟩ := answers world same calm
  exact ⟨after, .blob valid kind_eq ran, kept⟩

/-- With nothing in the way, the references are gone through, and each is found as it is in the
store. -/
theorem Surveyed.of_foundIn {store : σ}
    (found : List.Forall₂ (Dependency.FoundIn lookUp token store) dependencies findings)
    (uncancelled : ∀ finding ∈ findings, finding ≠ .failed .cancelled) (same : world.store = store)
    (calm : world.interference = .none) : Surveyed lookUp token dependencies world findings := by
  induction found generalizing world with
  | nil => exact .nil world
  | cons first others ih =>
    obtain ⟨here, later⟩ := List.forall_mem_cons.mp uncancelled
    obtain ⟨looks, looked⟩ := runIn_isCancelled_of_calm (ε := PutError) calm token
    obtain ⟨middle, finds, same', calm'⟩ := first { world with looks } same calm
    exact .cons looked finds here (ih later same' calm')

/-! ## The report -/

/-- A survey ends with its report, unless there is nothing to report. -/
theorem Surveyed.verifyDependencies_eq {variant : Variant}
    (surveyed : Surveyed lookUp token variant.dependencies world findings) :
    ((verifyDependencies lookUp token variant).runIn world).1 =
      if report variant.dependencies findings = [] then .ok ()
      else .error (.verification (report variant.dependencies findings)) := by
  obtain ⟨after, ran⟩ := surveyed.failures_eq
  simp only [verifyDependencies, runIn_bind, ran]
  cases report variant.dependencies findings <;> rfl

theorem Abandoned.verifyDependencies_eq {variant : Variant}
    (abandoned : Abandoned lookUp token variant.dependencies world) :
    ((verifyDependencies lookUp token variant).runIn world).1 = .error .cancelled := by
  obtain ⟨after, ran⟩ := abandoned.failures_eq
  simp only [verifyDependencies, runIn_bind, ran]

/-- Whatever the stores answer, verification looks all references of a manifest up in order, or is
abandoned. Looked up, the references pass exactly when each has a valid digest and is in its store,
and otherwise those that are not are reported, one by one in document order. Abandoned, the
verification is cancelled. The references that must be manifests are an artifact's subject and those
with a manifest media type. -/
theorem verifyDependencies_exact (lookUp : Lookup σ) (token : Token) (variant : Variant)
    (world : World σ) :
    (variant.dependencies = variant.references.mapIdx fun i reference =>
      ⟨reference, if isManifestMediaType reference.mediaType ∨
        variant.subject?.isSome ∧ i + 1 = variant.references.length then .manifest else .blob⟩) ∧
    ((∃ findings, Surveyed lookUp token variant.dependencies world findings) ∨
      Abandoned lookUp token variant.dependencies world) ∧
    (∀ findings, Surveyed lookUp token variant.dependencies world findings →
      (((verifyDependencies lookUp token variant).runIn world).1 = .ok () ↔
        ∀ finding ∈ findings, finding = .present) ∧
      ((∃ finding ∈ findings, finding ≠ .present) →
        ((verifyDependencies lookUp token variant).runIn world).1 =
          .error (.verification (report variant.dependencies findings)))) ∧
    (Abandoned lookUp token variant.dependencies world →
      ((verifyDependencies lookUp token variant).runIn world).1 = .error .cancelled) := by
  refine ⟨variant.dependencies_eq, surveyed_or_abandoned lookUp token _ world, ?_,
    Abandoned.verifyDependencies_eq⟩
  intro findings surveyed
  rw [surveyed.verifyDependencies_eq, ← surveyed.report_eq_nil_iff]
  by_cases nothing : report variant.dependencies findings = []
  · rw [if_pos nothing]
    refine ⟨iff_of_true rfl nothing, ?_⟩
    rintro ⟨finding, member, missing⟩
    exact absurd (surveyed.report_eq_nil_iff.mp nothing finding member) missing
  · rw [if_neg nothing]
    exact ⟨iff_of_false nofun nothing, fun _ => rfl⟩

/-- An artifact with a malformed reference, a blob that is missing and referred to twice, and a
missing subject, on an empty store; and the same with a token that has fired. -/
theorem verifyDependencies_exact_unsatisfied :
    ∃ (variant : Variant) (malformed missing : Digest) (reason : DigestError)
      (findings : List Finding) (live fired : World MemoryStore),
      Surveyed ManifestService.exists? .callers variant.dependencies live findings ∧
      (∃ finding ∈ findings, finding ≠ .present) ∧
      ((verifyDependencies ManifestService.exists? .callers variant).runIn live).1 =
        .error (.verification [.invalidDigest malformed reason, .blobUnknown missing,
          .blobUnknown missing, .manifestUnknown missing]) ∧
      Abandoned ManifestService.exists? .callers variant.dependencies fired ∧
      ((verifyDependencies ManifestService.exists? .callers variant).runIn fired).1 =
        .error .cancelled := by
  obtain ⟨digest, valid⟩ : ∃ digest : Digest, digest.IsValid := ⟨_, Digest.isValid_ofBytes []⟩
  let malformed : Descriptor := { digest := ⟨"sha256"⟩ }
  let missing : Descriptor := { digest }
  let variant : Variant :=
    .artifact { blobs := [malformed, missing, missing], subject := some missing }
  have dependencies_eq : variant.dependencies =
      [⟨malformed, .blob⟩, ⟨missing, .blob⟩, ⟨missing, .blob⟩, ⟨missing, .manifest⟩] := by
    have untyped : isManifestMediaType "" = false := by decide
    simp [variant, Variant.dependencies, Dependency.ofReference, malformed, missing, untyped]
  have invalid : malformed.digest.validate = .error (.missingAlgorithm "sha256") := by cbv
  have unknown : Answers ({} : MemoryStore) (Store.statBlob .callers digest)
      (.error (.blobUnknown digest)) :=
    MemoryStore.statBlob_answers {} .callers digest
  have noBlob : Dependency.FoundIn ManifestService.exists? .callers ({} : MemoryStore)
      ⟨missing, .blob⟩ (.ofBlobs (.error (.blobUnknown digest))) := .blob valid rfl unknown
  have noManifest : Dependency.FoundIn ManifestService.exists? .callers ({} : MemoryStore)
      ⟨missing, .manifest⟩ (.ofManifests (.ok false)) :=
    .manifest valid rfl (unknown.outcome.bind_ok (.pure false))
  let live : World MemoryStore := { store := {} }
  let fired : World MemoryStore := { store := {}, interference := .planned none (some 0) }
  have surveyed : Surveyed ManifestService.exists? .callers variant.dependencies live
      [.malformed (.missingAlgorithm "sha256"), .absent, .absent, .absent] := by
    rw [dependencies_eq]
    exact .of_foundIn
      (.cons (.malformed invalid) (.cons noBlob (.cons noBlob (.cons noManifest .nil))))
      (by simp) rfl rfl
  have abandoned : Abandoned ManifestService.exists? .callers variant.dependencies fired := by
    rw [dependencies_eq]
    exact .fired rfl
  have incomplete : ∃ finding ∈ [Finding.malformed (.missingAlgorithm "sha256"), .absent, .absent,
      .absent], finding ≠ .present := by
    refine ⟨_, List.mem_cons_self, fun is => ?_⟩
    cases is
  obtain ⟨-, -, reported, -⟩ :=
    verifyDependencies_exact ManifestService.exists? .callers variant live
  obtain ⟨-, -, -, cancelled⟩ :=
    verifyDependencies_exact ManifestService.exists? .callers variant fired
  have ended := (reported _ surveyed).2 incomplete
  rw [dependencies_eq] at ended
  exact ⟨variant, malformed.digest, digest, _, _, live, fired, surveyed, incomplete, ended,
    abandoned, cancelled abandoned⟩

end Manifest

end ArtifactRegistry
