import ArtifactRegistry.Manifest.Service
import ArtifactRegistry.Proofs.Action
import ArtifactRegistry.Proofs.Outcome

/-! # What a put does to a store

A put reads until every check has passed, then stores one payload, then adds at most one link.
`ManifestService.putRun` says so for any backend whose lookups read: every put is refused with the
store as it was, or ends with the calls that `PutRun` lists. Results about puts are read off it.
-/

namespace ArtifactRegistry

open Manifest ArtifactRegistry.Action

/-- Looking something up leaves the store as it is. -/
class ReadingBackend (σ : Type) [Backend σ] : Prop where
  statBlob (token : Token) (digest : Digest) :
    ReadOnly (Backend.statBlob token digest : Action σ StorageError Descriptor)
  getBlob (token : Token) (digest : Digest) :
    ReadOnly (Backend.getBlob token digest : Action σ StorageError Bytes)
  listLinks (token : Token) (path : String) :
    ReadOnly (Backend.listLinks token path : Action σ StorageError (List Digest))

variable {σ : Type} [Backend σ]

/-! ## Verification only reads -/

section Verification

variable [ReadingBackend σ]

theorem Store.statBlob_readOnly (token : Token) (digest : Digest) :
    ReadOnly (Store.statBlob token digest : Action σ StorageError Descriptor) :=
  (ReadingBackend.statBlob token digest).call

theorem Store.getBlob_readOnly (token : Token) (digest : Digest) :
    ReadOnly (Store.getBlob token digest : Action σ StorageError Bytes) :=
  (ReadingBackend.getBlob token digest).call

theorem Store.listLinks_readOnly (token : Token) (path : String) :
    ReadOnly (Store.listLinks token path : Action σ StorageError (List Digest)) :=
  (ReadingBackend.listLinks token path).call

theorem ManifestService.exists?_readOnly (token : Token) (digest : Digest) :
    ReadOnly (ManifestService.exists? token digest : Action σ StorageError Bool) := by
  apply (Store.statBlob_readOnly token digest).outcome.bind
  intro found
  split
  · exact .pure _
  · exact .pure _
  · exact .throw _

omit [Backend σ] [ReadingBackend σ] in
private theorem lookupFailure_readOnly (digest : Digest) (error : StorageError) :
    ReadOnly (lookupFailure digest error : Action σ PutError _) := by
  cases error
  case cancelled => exact .throw PutError.cancelled
  all_goals exact .pure _

theorem Manifest.Dependency.failure?_readOnly {lookUp : Lookup σ}
    (reads : ∀ token digest, ReadOnly (lookUp token digest)) (token : Token)
    (dependency : Dependency) : ReadOnly (dependency.failure? lookUp token) := by
  simp only [Dependency.failure?]
  split
  · exact .pure _
  split
  · apply (reads token _).outcome.bind
    intro found
    split
    · exact .pure _
    · exact .pure _
    · exact .pure _
    · exact lookupFailure_readOnly _ _
  · apply (Store.statBlob_readOnly token _).outcome.bind
    intro found
    split
    · exact .pure _
    · exact .pure _
    · exact lookupFailure_readOnly _ _

theorem Manifest.failures_readOnly {lookUp : Lookup σ}
    (reads : ∀ token digest, ReadOnly (lookUp token digest)) (token : Token)
    (dependencies : List Dependency) : ReadOnly (failures lookUp token dependencies) := by
  induction dependencies with
  | nil => exact .pure []
  | cons dependency rest ih =>
    apply (ReadOnly.isCancelled token).bind
    intro fired
    cases fired with
    | true => exact .throw PutError.cancelled
    | false =>
      apply (dependency.failure?_readOnly reads token).bind
      intro failure
      apply ih.bind
      intro others
      exact .pure _

theorem Manifest.verifyDependencies_readOnly {lookUp : Lookup σ}
    (reads : ∀ token digest, ReadOnly (lookUp token digest)) (token : Token)
    (variant : Variant) : ReadOnly (verifyDependencies lookUp token variant) := by
  apply (failures_readOnly reads token variant.dependencies).bind
  intro failures
  cases failures with
  | nil => exact .pure ()
  | cons failure rest => exact (ReadOnly.record _ _ _).bind fun _ => .throw _

end Verification

/-! ## How a put can go -/

/-- Only artifact manifests have a subject. -/
theorem Manifest.Variant.kind_of_subject? {variant : Variant} {about : Descriptor}
    (has : variant.subject? = some about) : variant.kind = .artifact := by
  cases variant with
  | image contents => cases has
  | index contents => cases has
  | artifact contents => rfl

namespace Handler

/-- The path of the link that a handler adds for a manifest, if it adds one. -/
def link? : Handler → Manifest → Except StorageError (Option String)
  | plain _, _ => .ok none
  | referrers repository, manifest => linkPath? repository manifest

/-- A manifest has passed the checks of a handler: it has bytes, and its link has a path. -/
structure Accepts (handler : Handler) (manifest : Manifest) (payload : Payload)
    (path? : Option String) : Prop where
  kind_eq : manifest.kind = handler.kind
  mediaTypeMatches : manifest.variant.mediaTypeMatches = true
  payload_eq : manifest.payload = .ok payload
  link_eq : handler.link? manifest = .ok path?

/-- The handler of artifacts links what has a subject. -/
theorem Accepts.path?_eq {repository : String} {manifest : Manifest} {payload : Payload}
    {path? : Option String} (accepts : (referrers repository).Accepts manifest payload path?)
    {about : Descriptor} (has : manifest.variant.subject? = some about) :
    ∃ path, referrersLinkPath repository about.digest = .ok path ∧ path? = some path := by
  have link_eq := accepts.link_eq
  simp only [link?, linkPath?, has] at link_eq
  obtain ⟨path, derived, same⟩ := map_eq_ok_iff.mp link_eq
  exact ⟨path, derived, same.symm⟩

/-- What is linked is linked to its subject, by the handler of artifacts. -/
theorem Accepts.linked {handler : Handler} {manifest : Manifest} {payload : Payload} {path : String}
    (accepts : handler.Accepts manifest payload (some path)) :
    ∃ repository about, handler = referrers repository ∧
      manifest.variant.subject? = some about ∧
      referrersLinkPath repository about.digest = .ok path := by
  cases handler with
  | plain kind => cases accepts.link_eq
  | referrers repository =>
    cases has : manifest.variant.subject? with
    | none =>
      have link_eq := accepts.link_eq
      simp only [link?, linkPath?, has] at link_eq
      cases link_eq
    | some about =>
      obtain ⟨_, derived, same⟩ := accepts.path?_eq has
      cases same
      exact ⟨repository, about, rfl, rfl, derived⟩

/-- The ways in which a put can go, by its result and the store before and after. -/
inductive PutRun (handler : Handler) (manifest : Manifest) (before after : σ) :
    Except PutError Digest → Prop
  /-- Nothing is stored. -/
  | refused (error : PutError) (same : after = before) : PutRun handler manifest before after (.error error)
  /-- The store does not take the payload. -/
  | unstored {token : Token} {payload : Payload} {path? : Option String} {error : StorageError}
      {start stored : World σ} (accepts : handler.Accepts manifest payload path?)
      (same : start.store = before)
      (failed : (Store.putBlob token manifest.kind.mediaType payload.bytes).runIn start =
        (.error error, stored))
      (ends : after = stored.store) :
      PutRun handler manifest before after (.error (.ofStorage error))
  /-- The payload is stored, and there is nothing to link. -/
  | stored {token : Token} {payload : Payload} {descriptor : Descriptor} {start stored : World σ}
      (accepts : handler.Accepts manifest payload none) (same : start.store = before)
      (took : (Store.putBlob token manifest.kind.mediaType payload.bytes).runIn start =
        (.ok descriptor, stored))
      (ends : after = stored.store) : PutRun handler manifest before after (.ok descriptor.digest)
  /-- The payload is stored, and the store is asked for the link, with a token that nobody holds. -/
  | linked {token : Token} {payload : Payload} {path : String} {descriptor : Descriptor}
      {result : Except StorageError Unit} {start stored linking linked : World σ}
      (accepts : handler.Accepts manifest payload (some path)) (same : start.store = before)
      (took : (Store.putBlob token manifest.kind.mediaType payload.bytes).runIn start =
        (.ok descriptor, stored))
      (continues : linking.store = stored.store)
      (ran : (Store.addLink .fresh path descriptor.digest).runIn linking = (result, linked))
      (ends : after = linked.store) :
      PutRun handler manifest before after
        ((result.mapError .ofStorage).map fun _ => descriptor.digest)

theorem runIn_check (lookUp : Lookup σ) (kind : Manifest.Kind) (token : Token)
    (manifest : Manifest) (skip : Bool) (world : World σ) :
    (check kind lookUp token manifest skip).runIn world =
      if manifest.kind ≠ kind then (.error (.typeMismatch kind manifest.kind), world)
      else if !manifest.variant.mediaTypeMatches then
        (.error (.unrecognizedMediaType kind manifest.variant.declaredMediaType), world)
      else if !skip then (verifyDependencies lookUp token manifest.variant).runIn world
      else (.ok (), world) := by
  simp only [check, runIn_ite, runIn_bind, runIn_throw, runIn_pure]

/-- A manifest that passes is of the kind and declares its media type; no check writes. -/
private theorem check_ran [ReadingBackend σ] {lookUp : Lookup σ}
    (reads : ∀ token digest, ReadOnly (lookUp token digest)) {kind : Manifest.Kind} {token : Token}
    {manifest : Manifest} {skip : Bool} {world after : World σ} {result : Except PutError Unit}
    (ran : (check kind lookUp token manifest skip).runIn world = (result, after)) :
    after.store = world.store ∧ (result = .ok () →
      manifest.kind = kind ∧ manifest.variant.mediaTypeMatches = true) := by
  rw [runIn_check] at ran
  split at ran
  · cases ran
    exact ⟨rfl, nofun⟩
  next sameKind =>
  split at ran
  · cases ran
    exact ⟨rfl, nofun⟩
  next matching =>
  have passed : manifest.kind = kind ∧ manifest.variant.mediaTypeMatches = true := by simp_all
  split at ran
  · exact ⟨(verifyDependencies_readOnly reads token _).store_eq ran, fun _ => passed⟩
  · cases ran
    exact ⟨rfl, fun _ => passed⟩

/-- A check that does not skip the dependencies ends with their verification. -/
private theorem check_verifies {lookUp : Lookup σ} {kind : Manifest.Kind} {token : Token}
    {manifest : Manifest} {world after : World σ}
    (ran : (check kind lookUp token manifest false).runIn world = (.ok (), after)) :
    (verifyDependencies lookUp token manifest.variant).runIn world = (.ok (), after) := by
  rw [runIn_check] at ran
  split at ran
  · cases ran
  split at ran
  · cases ran
  · exact ran

/-- Storing stops before the store is asked, or ends with its answer. -/
private theorem store_ran {kind : Manifest.Kind} {token : Token} {manifest : Manifest}
    {world after : World σ} {result : Except PutError Digest}
    (ran : (store kind token manifest).runIn world = (result, after)) :
    (∃ error, result = .error error ∧ after.store = world.store) ∨
      ∃ payload answer start stored, manifest.payload = .ok payload ∧ start.store = world.store ∧
        (Store.putBlob token manifest.kind.mediaType payload.bytes).runIn start =
          (answer, stored) ∧
        after.store = stored.store ∧
        result = (answer.map Descriptor.digest).mapError .ofStorage := by
  obtain ⟨fired, looks, looked⟩ := runIn_isCancelled (ε := PutError) token world
  simp only [store, runIn_bind_of_ok looked, runIn_ite, runIn_bind, runIn_throw] at ran
  cases fired with
  | true =>
    cases ran
    exact .inl ⟨_, rfl, rfl⟩
  | false =>
    simp only [Bool.false_eq_true, if_false] at ran
    cases sealed : manifest.payload with
    | error source =>
      rw [sealed] at ran
      cases ran
      exact .inl ⟨_, rfl, rfl⟩
    | ok payload =>
      simp only [sealed, runIn_bind, runIn_outcome] at ran
      generalize asked : (Store.putBlob (σ := σ) token manifest.kind.mediaType payload.bytes).runIn _ =
        outcome at ran
      obtain ⟨answer, stored⟩ := outcome
      refine .inr ⟨payload, answer, { world with looks }, stored, rfl, rfl, asked, ?_⟩
      cases answer <;> cases ran <;> exact ⟨rfl, rfl⟩

/-- Storing a manifest that has passed the other checks ends the put without a payload, or the store takes
the payload. -/
private theorem store_accepted (handler : Handler) {token : Token} {manifest : Manifest}
    {path? : Option String} {before : σ} {world after : World σ} {result : Except PutError Digest}
    (same : world.store = before) (kind_eq : manifest.kind = handler.kind)
    (mediaType : manifest.variant.mediaTypeMatches = true)
    (link_eq : handler.link? manifest = .ok path?)
    (ran : (store handler.kind token manifest).runIn world = (result, after)) :
    (∃ error, result = .error error ∧
        PutRun handler manifest before after.store (.error error)) ∨
      ∃ payload descriptor start stored, handler.Accepts manifest payload path? ∧
        start.store = before ∧
        (Store.putBlob token manifest.kind.mediaType payload.bytes).runIn start =
          (.ok descriptor, stored) ∧
        after.store = stored.store ∧ result = .ok descriptor.digest := by
  obtain ⟨error, rfl, kept⟩ | ⟨payload, answer, start, stored, sealed, start_eq, asked, ends, rfl⟩ :=
    store_ran ran
  · exact .inl ⟨error, rfl, .refused error (kept.trans same)⟩
  have accepts : handler.Accepts manifest payload path? := ⟨kind_eq, mediaType, sealed, link_eq⟩
  cases answer with
  | error error => exact .inl ⟨_, rfl, .unstored accepts (start_eq.trans same) asked ends⟩
  | ok descriptor =>
    exact .inr ⟨payload, descriptor, start, stored, accepts, start_eq.trans same, asked, ends, rfl⟩

/-- Every put of a handler goes in one of the ways. -/
theorem putRun [ReadingBackend σ] {lookUp : Lookup σ}
    (reads : ∀ token digest, ReadOnly (lookUp token digest)) {handler : Handler} {token : Token}
    {manifest : Manifest} {skip : Bool} {world after : World σ} {result : Except PutError Digest}
    (ran : (handler.put lookUp token manifest skip).runIn world = (result, after)) :
    PutRun handler manifest world.store after.store result := by
  cases handler with
  | plain kind =>
    simp only [put, runIn_bind, runIn_record] at ran
    generalize checked : (check kind lookUp token manifest skip).runIn _ = outcome at ran
    obtain ⟨error | _, middle⟩ := outcome
    · cases ran
      exact .refused error (check_ran reads checked).1
    obtain ⟨same, passed⟩ := check_ran reads checked
    obtain ⟨kind_eq, mediaType⟩ := passed rfl
    obtain ⟨error, rfl, went⟩ | ⟨payload, descriptor, start, stored, accepts, start_eq, took, ends, rfl⟩ :=
      store_accepted (plain kind) same kind_eq mediaType rfl ran
    · exact went
    · exact .stored accepts start_eq took ends
  | referrers repository =>
    simp only [put, runIn_bind, runIn_record] at ran
    generalize checked : (check .artifact lookUp token manifest skip).runIn _ = outcome at ran
    obtain ⟨error | _, middle⟩ := outcome
    · cases ran
      exact .refused error (check_ran reads checked).1
    obtain ⟨same, passed⟩ := check_ran reads checked
    obtain ⟨kind_eq, mediaType⟩ := passed rfl
    cases link : linkPath? repository manifest with
    | error error =>
      rw [link] at ran
      cases ran
      exact .refused _ same
    | ok path? =>
      simp only [link, runIn_bind] at ran
      generalize storing : (store .artifact token manifest).runIn middle = outcome at ran
      obtain ⟨answer, middle'⟩ := outcome
      obtain ⟨error, rfl, went⟩ | ⟨payload, descriptor, start, stored, accepts, start_eq, took, ends, rfl⟩ :=
        store_accepted (referrers repository) same kind_eq mediaType link storing
      · cases ran
        exact went
      cases path? with
      | none =>
        cases ran
        exact .stored accepts start_eq took ends
      | some path =>
        simp only [runIn_bind, runIn_withErrors, runIn_record] at ran
        generalize linking : (Store.addLink .fresh path descriptor.digest).runIn middle' = outcome at ran
        obtain ⟨answer, linked⟩ := outcome
        have went : PutRun (referrers repository) manifest world.store linked.store _ :=
          .linked accepts start_eq took ends linking rfl
        cases answer <;> cases ran <;> exact went

/-- A put that does not skip the dependencies has verified them in the store that it started with. -/
theorem put_verifies {lookUp : Lookup σ} {handler : Handler} {token : Token} {manifest : Manifest}
    {world after : World σ} {digest : Digest}
    (ran : (handler.put lookUp token manifest false).runIn world = (.ok digest, after)) :
    ∃ start ended, start.store = world.store ∧
      (verifyDependencies lookUp token manifest.variant).runIn start = (.ok (), ended) := by
  cases handler with
  | plain kind =>
    simp only [put, runIn_bind, runIn_record] at ran
    generalize checked : (check kind lookUp token manifest false).runIn _ = outcome at ran
    obtain ⟨error | _, middle⟩ := outcome
    · cases ran
    · refine ⟨_, middle, ?_, check_verifies checked⟩
      rfl
  | referrers repository =>
    simp only [put, runIn_bind, runIn_record] at ran
    generalize checked : (check .artifact lookUp token manifest false).runIn _ = outcome at ran
    obtain ⟨error | _, middle⟩ := outcome
    · cases ran
    · refine ⟨_, middle, ?_, check_verifies checked⟩
      rfl

end Handler

/-- Every put of a service is refused, or goes in one of the ways of the handler in charge. -/
theorem ManifestService.putRun [ReadingBackend σ] {service : ManifestService} {token : Token}
    {manifest : Manifest} {skip : Bool} {world after : World σ} {result : Except PutError Digest}
    (ran : (service.put token manifest skip).runIn world = (result, after)) :
    (∃ error, result = .error error ∧ after.store = world.store) ∨
      ∃ handler, service.handlers manifest.kind = some handler ∧
        Handler.PutRun handler manifest world.store after.store result := by
  cases inCharge : service.handlers manifest.kind with
  | none =>
    rw [put, inCharge] at ran
    cases ran
    exact .inl ⟨_, rfl, rfl⟩
  | some handler =>
    simp only [put, inCharge, runIn_bind, runIn_record] at ran
    generalize handled : (handler.put exists? token manifest skip).runIn world = outcome at ran
    have went := Handler.putRun exists?_readOnly handled
    obtain ⟨error | digest, middle⟩ := outcome <;> cases ran <;> exact .inr ⟨handler, rfl, went⟩

theorem ManifestService.put_verifies {service : ManifestService} {token : Token}
    {manifest : Manifest} {world after : World σ} {digest : Digest}
    (ran : (service.put token manifest false).runIn world = (.ok digest, after)) :
    ∃ start ended, start.store = world.store ∧
      (verifyDependencies exists? token manifest.variant).runIn start = (.ok (), ended) := by
  cases inCharge : service.handlers manifest.kind with
  | none =>
    rw [put, inCharge] at ran
    cases ran
  | some handler =>
    simp only [put, inCharge, runIn_bind, runIn_record] at ran
    generalize handled : (handler.put exists? token manifest false).runIn world = outcome at ran
    obtain ⟨error | digest, middle⟩ := outcome
    · cases ran
    · exact Handler.put_verifies handled

end ArtifactRegistry
