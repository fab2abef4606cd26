import ArtifactRegistry.Proofs.Storage.Listings

/-! # Lookups that are stopped or right

A lookup has one answer, which depends on what the store holds. When something interferes, the token
may stop the lookup, or a call may be lost; but a lookup that is not stopped ends with its answer,
as if nothing had interfered. `Action.Consistent` says so and is kept along every way of putting
operations together, as long as errors that stop a part are passed on. Both backends look everything
up like this, `LookupBackend`.
-/

namespace ArtifactRegistry

open ArtifactRegistry.Action

/-! ## Errors that come from outside -/

/-- The token or a fault has stopped an operation. -/
inductive StorageError.Stopped : StorageError → Prop
  | cancelled : Stopped .cancelled
  | lost : Stopped (.medium .injected)

/-! ## Consistent operations -/

namespace Action

variable {σ ε ε' α β : Type} {Stopped : ε → Prop} {Stopped' : ε' → Prop} {world after : World σ}

/-- With nothing in the way, an operation has an answer on every store. Whatever interferes, it
leaves the store alone, and ends with this answer unless it is stopped. -/
def Consistent (Stopped : ε → Prop) (action : Action σ ε α) : Prop :=
  ∀ store, ∃ result, Answers store action result ∧ ∀ world, world.store = store →
    (action.runIn world).2.store = store ∧
      ((action.runIn world).1 = result ∨ Fails Stopped (action.runIn world).1)

namespace Consistent

theorem exists_answer {action : Action σ ε α} (consistent : Consistent Stopped action) (store : σ) :
    ∃ result, Answers store action result := by
  obtain ⟨result, answers, -⟩ := consistent store
  exact ⟨result, answers⟩

/-- An operation that has succeeded has ended with its answer. -/
theorem answers_of_ok {action : Action σ ε α} {value : α} (consistent : Consistent Stopped action)
    (ran : action.runIn world = (.ok value, after)) :
    Answers world.store action (.ok value) ∧ after.store = world.store := by
  obtain ⟨result, answers, ends⟩ := consistent world.store
  obtain ⟨kept, same | ⟨error, failed, -⟩⟩ := ends world rfl
  · rw [ran] at kept same
    rw [← same] at answers
    exact ⟨answers, kept⟩
  · rw [ran] at failed
    cases failed

protected theorem pure (value : α) : Consistent Stopped (pure value : Action σ ε α) :=
  fun _ => ⟨.ok value, .pure value, fun _ same => ⟨same, .inl rfl⟩⟩

protected theorem throw (error : ε) : Consistent Stopped (throw error : Action σ ε α) :=
  fun _ => ⟨.error error, .throw error, fun _ same => ⟨same, .inl rfl⟩⟩

protected theorem record (level : Log.Level) (message : String)
    (fields : List (String × Log.Value)) :
    Consistent Stopped (record level message fields : Action σ ε Unit) :=
  fun _ => ⟨.ok (), .record level message fields, fun _ same => ⟨same, .inl rfl⟩⟩

protected theorem bind {first : Action σ ε α} {next : α → Action σ ε β}
    (starts : Consistent Stopped first) (continues : ∀ value, Consistent Stopped (next value)) :
    Consistent Stopped (first >>= next) := by
  intro store
  obtain ⟨result, answers, ends⟩ := starts store
  -- A first part that is stopped stops the sequence.
  have stops {world : World σ} (same : world.store = store)
      (stopped : Fails Stopped (first.runIn world).1) :
      ((first >>= next).runIn world).2.store = store ∧
        Fails Stopped ((first >>= next).runIn world).1 := by
    obtain ⟨error, failed, stopped⟩ := stopped
    have kept := (ends world same).1
    rcases ran : first.runIn world with ⟨_ | _, middle⟩
    · rw [ran] at failed kept
      cases failed
      rw [runIn_bind, ran]
      exact ⟨kept, error, rfl, stopped⟩
    · rw [ran] at failed
      cases failed
  cases result with
  | error error =>
    refine ⟨.error error, answers.bind_error, ?_⟩
    intro world same
    obtain ⟨kept, ended | stopped⟩ := ends world same
    · rw [runIn_bind, show first.runIn world = (.error error, _) from Prod.ext ended rfl]
      exact ⟨kept, .inl rfl⟩
    · obtain ⟨kept, stopped⟩ := stops same stopped
      exact ⟨kept, .inr stopped⟩
  | ok value =>
    obtain ⟨result, answers', ends'⟩ := continues value store
    refine ⟨result, answers.bind_ok answers', ?_⟩
    intro world same
    obtain ⟨kept, ended | stopped⟩ := ends world same
    · rw [runIn_bind_of_ok (Prod.ext ended rfl)]
      exact ends' _ kept
    · obtain ⟨kept, stopped⟩ := stops same stopped
      exact ⟨kept, .inr stopped⟩

/-- What depends on the world depends on the store only. -/
theorem get_bind {next : World σ → Action σ ε α}
    (uses : ∀ world world' : World σ, world.store = world'.store → next world = next world')
    (continues : ∀ world, Consistent Stopped (next world)) :
    Consistent Stopped (get >>= next) := by
  intro store
  obtain ⟨result, answers, ends⟩ := continues { store } store
  refine ⟨result, ?_, ?_⟩
  · intro world same calm
    rw [runIn_bind_of_ok runIn_get, uses world { store } same]
    exact answers world same calm
  · intro world same
    rw [runIn_bind_of_ok runIn_get, uses world { store } same]
    exact ends world same

/-- An operation may look at an outcome, as long as it passes on that it was stopped. -/
theorem outcome_bind {first : Action σ ε α} {next : Except ε α → Action σ ε' β}
    (starts : Consistent Stopped first)
    (stops : ∀ error, Stopped error → ∀ world, ∃ error',
      (next (.error error)).runIn world = (.error error', world) ∧ Stopped' error')
    (continues : ∀ result, Consistent Stopped' (next result)) :
    Consistent Stopped' (outcome first >>= next) := by
  intro store
  obtain ⟨result, answers, ends⟩ := starts store
  obtain ⟨result', answers', ends'⟩ := continues result store
  refine ⟨result', answers.outcome.bind_ok answers', ?_⟩
  intro world same
  rw [runIn_bind_of_ok (runIn_outcome first)]
  obtain ⟨kept, ended | ⟨error, failed, stopped⟩⟩ := ends world same
  · rw [ended]
    exact ends' _ kept
  · obtain ⟨error', ran, stopped'⟩ := stops error stopped (first.runIn world).2
    rw [failed, ran]
    exact ⟨kept, .inr ⟨error', rfl, stopped'⟩⟩

protected theorem withErrors {action : Action σ ε α} {wrap : ε → ε'}
    (stops : ∀ error, Stopped error → Stopped' (wrap error))
    (consistent : Consistent Stopped action) : Consistent Stopped' (withErrors wrap action) := by
  intro store
  obtain ⟨result, answers, ends⟩ := consistent store
  refine ⟨_, answers.withErrors wrap, ?_⟩
  intro world same
  obtain ⟨kept, ended | ⟨error, failed, stopped⟩⟩ := ends world same
  · rw [runIn_withErrors, ended]
    exact ⟨kept, .inl rfl⟩
  · rw [runIn_withErrors, failed]
    exact ⟨kept, .inr ⟨wrap error, rfl, stops error stopped⟩⟩

protected theorem ensureLive (token : Token) :
    Consistent StorageError.Stopped (ensureLive token : Action σ _ Unit) := by
  intro store
  refine ⟨.ok (), .ensureLive token, ?_⟩
  intro world same
  obtain ⟨looks, live | fired⟩ := runIn_ensureLive token world
  · rw [live]
    exact ⟨same, .inl rfl⟩
  · rw [fired]
    exact ⟨same, .inr ⟨_, rfl, .cancelled⟩⟩

/-- A call is lost, or as consistent as what is called. -/
protected theorem call {action : Action σ StorageError α}
    (consistent : Consistent StorageError.Stopped action) :
    Consistent StorageError.Stopped (call action) := by
  intro store
  obtain ⟨result, answers, ends⟩ := consistent store
  refine ⟨result, answers.call, ?_⟩
  intro world same
  rw [runIn_call]
  split
  · exact ⟨same, .inr ⟨_, rfl, .lost⟩⟩
  · exact ends world same

protected theorem mapM {operation : α → Action σ ε β}
    (consistent : ∀ item, Consistent Stopped (operation item)) (items : List α) :
    Consistent Stopped (items.mapM operation) := by
  induction items with
  | nil =>
    rw [List.mapM_nil]
    exact .pure []
  | cons item rest ih =>
    rw [List.mapM_cons]
    exact (consistent item).bind fun value => ih.bind fun values => .pure (value :: values)

end Consistent

end Action

/-! ## Backends -/

/-- A backend whose lookups are consistent, and which describes a blob under the digest that it is
asked for. -/
class LookupBackend (σ : Type) [Backend σ] : Prop where
  statBlob (token : Token) (digest : Digest) :
    Consistent StorageError.Stopped (Backend.statBlob token digest : Action σ _ Descriptor)
  getBlob (token : Token) (digest : Digest) :
    Consistent StorageError.Stopped (Backend.getBlob token digest : Action σ _ Bytes)
  listLinks (token : Token) (path : String) :
    Consistent StorageError.Stopped (Backend.listLinks token path : Action σ _ (List Digest))
  statBlob_digest (token : Token) (digest : Digest) :
    Returns (fun descriptor => descriptor.digest = digest)
      (Backend.statBlob token digest : Action σ _ Descriptor)

namespace Store

variable {σ : Type} [Backend σ] [LookupBackend σ]

theorem statBlob_consistent (token : Token) (digest : Digest) :
    Consistent StorageError.Stopped (statBlob token digest : Action σ _ Descriptor) :=
  (LookupBackend.statBlob token digest).call

theorem getBlob_consistent (token : Token) (digest : Digest) :
    Consistent StorageError.Stopped (getBlob token digest : Action σ _ Bytes) :=
  (LookupBackend.getBlob token digest).call

theorem listLinks_consistent (token : Token) (path : String) :
    Consistent StorageError.Stopped (listLinks token path : Action σ _ (List Digest)) :=
  (LookupBackend.listLinks token path).call

/-- A blob is described under the digest that was asked for. -/
theorem digest_of_statBlob {store : σ} {token : Token} {digest : Digest} {stored : Descriptor}
    (answers : Answers store (statBlob token digest) (.ok stored)) : stored.digest = digest := by
  obtain ⟨after, ran, -⟩ := answers { store } rfl rfl
  rw [statBlob, runIn_call_of_calm rfl] at ran
  exact LookupBackend.statBlob_digest token digest _ stored (congrArg Prod.fst ran)

end Store

namespace MemoryStore

variable {Stopped : StorageError → Prop}

private theorem orFail_consistent {α : Type} (value : Option α) (error : StorageError) :
    Consistent Stopped (orFail value error) := by
  cases value with
  | none => exact .throw error
  | some value => exact .pure value

instance : LookupBackend MemoryStore where
  statBlob token digest := by
    apply (Consistent.ensureLive token).bind
    intro live
    refine Consistent.get_bind (fun _ _ same => by rw [same]) fun world => ?_
    exact (orFail_consistent _ _).bind fun blob => .pure _
  getBlob token digest := by
    apply (Consistent.ensureLive token).bind
    intro live
    refine Consistent.get_bind (fun _ _ same => by rw [same]) fun world => ?_
    exact (orFail_consistent _ _).bind fun blob => .pure _
  listLinks token path := by
    apply (Consistent.ensureLive token).bind
    intro live
    refine Consistent.get_bind (fun _ _ same => by rw [same]) fun world => ?_
    exact orFail_consistent _ _
  statBlob_digest token digest := by
    apply Returns.bind
    intro live
    apply Returns.bind
    intro world
    apply Returns.bind
    intro blob
    exact .pure rfl

end MemoryStore

namespace FileStore

variable {α : Type} {Stopped : StorageError → Prop}

private theorem look_consistent (find : FileStore → Except MediumError α) :
    Consistent Stopped (look find) := by
  refine Consistent.get_bind (fun _ _ same => by rw [same]) fun world => ?_
  exact .pure _

private theorem orFail_consistent (result : Except MediumError α) :
    Consistent Stopped (orFail result) := by
  cases result with
  | ok value => exact .pure value
  | error error => exact .throw _

private theorem validated_consistent (result : Except DigestError α) :
    Consistent Stopped (validated result) := by
  cases result with
  | ok value => exact .pure value
  | error error => exact .throw _

theorem statBlob_consistent (token : Token) (digest : Digest) :
    Consistent StorageError.Stopped (statBlob token digest) := by
  apply (Consistent.ensureLive token).bind
  intro live
  apply (validated_consistent _).bind
  intro names
  apply (look_consistent _).bind
  intro size
  split
  · exact .throw _
  · exact .throw _
  · apply (look_consistent _).bind
    intro text
    split
    · exact (Consistent.pure _).bind fun mediaType => .pure _
    · exact (Consistent.pure _).bind fun mediaType => .pure _
    · exact (Consistent.throw _).bind fun mediaType => .pure _

theorem getBlob_consistent (token : Token) (digest : Digest) :
    Consistent StorageError.Stopped (getBlob token digest) := by
  apply (Consistent.ensureLive token).bind
  intro live
  apply (validated_consistent _).bind
  intro names
  apply (look_consistent _).bind
  intro contents
  split
  · exact .throw _
  · exact .throw _
  · apply (validated_consistent _).bind
    intro intact
    cases intact with
    | true => exact .pure _
    | false =>
      refine Consistent.get_bind (fun _ _ same => by rw [same]) fun world => ?_
      exact (Consistent.record _ _ _).bind fun _ => .throw _

theorem readLink_consistent (path : String) (names : FileTree.Path) :
    Consistent Stopped (readLink path names) := by
  apply (look_consistent _).bind
  intro text
  split
  · exact .pure _
  · exact .throw _
  · split
    · exact .pure _
    · refine Consistent.get_bind (fun _ _ same => by rw [same]) fun world => ?_
      exact (Consistent.record _ _ _).bind fun _ => .pure _

theorem listAlgorithm_consistent (token : Token) (path name : String) :
    Consistent StorageError.Stopped (listAlgorithm token path name) := by
  apply (Consistent.ensureLive token).bind
  intro live
  split
  · exact .pure _
  · apply (look_consistent _).bind
    intro listed
    apply (orFail_consistent _).bind
    intro links
    exact (Consistent.mapM (fun link => readLink_consistent _ _) links).bind fun members => .pure _

theorem listLinks_consistent (token : Token) (path : String) :
    Consistent StorageError.Stopped (listLinks token path) := by
  apply (Consistent.ensureLive token).bind
  intro live
  apply (look_consistent _).bind
  intro algorithms
  split
  · exact .throw _
  · exact .throw _
  · exact (Consistent.mapM (listAlgorithm_consistent token path) _).bind fun members => .pure _

instance : LookupBackend FileStore where
  statBlob := statBlob_consistent
  getBlob := getBlob_consistent
  listLinks := listLinks_consistent
  statBlob_digest token digest := by
    apply Returns.bind
    intro live
    apply Returns.bind
    intro names
    apply Returns.bind
    intro size
    split
    · exact nofun
    · exact nofun
    · apply Returns.bind
      intro text
      split
      · exact Returns.bind fun mediaType => .pure rfl
      · exact Returns.bind fun mediaType => .pure rfl
      · exact Returns.bind fun mediaType => .pure rfl

end FileStore

end ArtifactRegistry
