import ArtifactRegistry.Proofs.Manifest.Lookup

/-! # Reading with and without handlers

A stored manifest is read by a handler, when one is in charge of its kind, and by the schema registry
otherwise. The registry also describes what it has read, and would ask the document for its media
type if it had none. Neither makes a difference for content that is stored as a manifest,
`decode_ran`, so a service reads the same manifests and refuses the others with the same errors
whatever handlers it was given: `get_agrees`.
-/

namespace ArtifactRegistry

open Manifest ArtifactRegistry.Action

/-! ## Operations that differ in their reports -/

namespace Action

variable {σ ε α β : Type}

/-- Whatever the world, two operations end with the same result and leave worlds that differ in what
was written only. -/
def SameButOutput (action action' : Action σ ε α) : Prop :=
  ∀ world, ∃ (result : Except ε α) (after : World σ) (output output' : List Log.Output),
    action.runIn world = (result, { after with output }) ∧
      action'.runIn world = (result, { after with output := output' })

namespace SameButOutput

/-- Operations that start the same may go on differently. -/
theorem bind_left (first : Action σ ε α) {next next' : α → Action σ ε β}
    (continues : ∀ value, SameButOutput (next value) (next' value)) :
    SameButOutput (first >>= next) (first >>= next') := by
  intro world
  rw [runIn_bind, runIn_bind]
  rcases first.runIn world with ⟨error | value, middle⟩
  · exact ⟨.error error, middle, _, _, rfl, rfl⟩
  · exact continues value middle

/-- Operations that start differently may go on with what only looks at the value. -/
theorem bind_right {first first' : Action σ ε α} (starts : SameButOutput first first')
    {next : α → Action σ ε β} (answer : α → Except ε β)
    (looks : ∀ value world, (next value).runIn world = (answer value, world)) :
    SameButOutput (first >>= next) (first' >>= next) := by
  intro world
  obtain ⟨error | value, after, output, output', ran, ran'⟩ := starts world
  · exact ⟨.error error, after, output, output', by rw [runIn_bind, ran], by rw [runIn_bind, ran']⟩
  · refine ⟨answer value, after, output, output', ?_, ?_⟩
    · rw [runIn_bind_of_ok ran, looks]
    · rw [runIn_bind_of_ok ran', looks]

end SameButOutput

end Action

/-! ## The two ways to read a manifest -/

namespace ManifestService

variable {service service' : ManifestService} {σ ε : Type}

theorem decode_same (standard : service.Standard) (standard' : service'.Standard)
    (mediaType : String) (digest : Digest) (content : Bytes) :
    SameButOutput (service.decode mediaType digest content : Action σ ε _)
      (service'.decode mediaType digest content) := by
  intro world
  obtain ⟨output, ran⟩ := decode_ran standard mediaType digest content world
  obtain ⟨output', ran'⟩ := decode_ran standard' mediaType digest content world
  exact ⟨_, world, output, output', ran, ran'⟩

variable [Backend σ]

theorem get_same (standard : service.Standard) (standard' : service'.Standard) (token : Token)
    (digest : Digest) :
    SameButOutput (service.get token digest : Action σ _ _) (service'.get token digest) := by
  apply SameButOutput.bind_left
  intro found
  -- What follows once the blob is known to be a manifest.
  extract_lets rest rest'
  have reads (descriptor : Descriptor) : SameButOutput (rest descriptor) (rest' descriptor) := by
    apply SameButOutput.bind_left
    intro content
    apply SameButOutput.bind_left
    intro live
    apply (decode_same standard standard' _ digest content).bind_right
      (Except.mapError (.unreadable digest))
    rintro (source | manifest) world
    · rfl
    · rfl
  split
  · split
    · exact .bind_left _ reads
    · exact .bind_left _ reads
  · exact .bind_left _ reads
  · exact .bind_left _ reads

/-- A service reads a manifest, or fails to, as any other service does on the same store. What is
stored, what gets in the way and when the caller gives up are arbitrary. The handlers that the
services were given show in what is reported, and in nothing else. -/
theorem get_agrees (repository repository' : String) (handlers handlers' : List Handler)
    (token : Token) (digest : Digest) (world : World σ) :
    ∃ (result : Except StorageError Manifest) (after : World σ) (output output' : List Log.Output),
    ((withHandlers repository .withDefaults handlers).get token digest).runIn world =
        (result, { after with output }) ∧
      ((withHandlers repository' .withDefaults handlers').get token digest).runIn world =
        (result, { after with output := output' }) :=
  get_same (standard_withHandlers repository handlers) (standard_withHandlers repository' handlers')
    token digest world

end ManifestService

end ArtifactRegistry
