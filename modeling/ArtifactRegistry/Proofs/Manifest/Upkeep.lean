import ArtifactRegistry.Proofs.Manifest.Visibility

/-! # What requests keep up

A request that is served asks the store for a put of its payload at most, and for a link at a path that
is derived from a subject. So a property of stores that these two calls keep up, `Upkeep`, holds in all
states that requests lead to, `Upkeep.serveAll`, whatever the requests and whatever interferes.
-/

namespace ArtifactRegistry

open ArtifactRegistry.Action

variable {σ : Type} [Backend σ]

/-- Puts of some payloads, and links at derived paths, keep up a property of stores. -/
structure Upkeep (payloads : Set Bytes) (Holds : σ → Prop) : Prop where
  putBlob {payload : Bytes} (member : payload ∈ payloads) (token : Token) (mediaType : String) :
    Preserves Holds (Store.putBlob token mediaType payload)
  addLink {repository path : String} {subject : Digest}
    (derived : referrersLinkPath repository subject = .ok path) (token : Token) (digest : Digest) :
    Preserves Holds (Store.addLink token path digest)

namespace Upkeep

variable {payloads : Set Bytes} {Holds : σ → Prop} [ReadingBackend σ]

/-- A put of a manifest keeps up what the store's own calls keep up. -/
theorem put (upkeep : Upkeep payloads Holds) {service : ManifestService} {token : Token}
    {manifest : Manifest} {skip : Bool} {world after : World σ} {result : Except PutError Digest}
    (member : ∀ payload, manifest.payload = .ok payload → payload.bytes ∈ payloads)
    (ran : (service.put token manifest skip).runIn world = (result, after))
    (holds : Holds world.store) : Holds after.store := by
  obtain ⟨error, -, same⟩ | ⟨handler, -, went⟩ := ManifestService.putRun ran
  · rwa [same]
  cases went with
  | refused error same => rwa [same]
  | unstored accepts start_eq failed ends =>
    rw [← start_eq] at holds
    rw [ends]
    exact (upkeep.putBlob (member _ accepts.payload_eq) _ _).holds failed holds
  | stored accepts start_eq took ends =>
    rw [← start_eq] at holds
    rw [ends]
    exact (upkeep.putBlob (member _ accepts.payload_eq) _ _).holds took holds
  | linked accepts start_eq took continues linking ends =>
    rw [← start_eq] at holds
    have stored := (upkeep.putBlob (member _ accepts.payload_eq) _ _).holds took holds
    obtain ⟨repository, about, -, -, derived⟩ := accepts.linked
    rw [← continues] at stored
    rw [ends]
    exact (upkeep.addLink derived _ _).holds linking stored

theorem serve (upkeep : Upkeep payloads Holds) {call : Call}
    (member : ∀ payload, call.request.payload? = some payload → payload ∈ payloads) {store : σ}
    (holds : Holds store) : Holds (call.serve store).2 := by
  obtain ⟨service, request, interference⟩ := call
  let world : World σ := { store, interference }
  have holds : Holds world.store := holds
  cases request with
  | putBlob mediaType payload => exact upkeep.putBlob (member payload rfl) _ _ world holds
  | putManifest manifest skip =>
    have ran : (service.put .callers manifest skip).runIn world = (_, _) := rfl
    refine upkeep.put (fun payload payload_eq => member payload.bytes ?_) ran holds
    exact Request.payload?_putManifest payload_eq skip

/-- What is kept up holds after any requests. -/
theorem serveAll (upkeep : Upkeep payloads Holds) {calls : List Call}
    (members : ∀ call ∈ calls, ∀ payload, call.request.payload? = some payload → payload ∈ payloads)
    {store : σ} (holds : Holds store) : Holds (Call.serveAll store calls).2 := by
  induction calls generalizing store with
  | nil => exact holds
  | cons call rest ih =>
    obtain ⟨now, later⟩ := List.forall_mem_cons.mp members
    exact ih later (upkeep.serve now holds)

end Upkeep

end ArtifactRegistry
