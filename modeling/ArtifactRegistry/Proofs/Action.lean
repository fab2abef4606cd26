import ArtifactRegistry.Proofs.Outcome
import ArtifactRegistry.Storage.Action

/-! # Running operations

How each way of putting operations together runs against a world. A sequence goes on where its first
part ended, unless that failed. Properties of an operation that compose along every sequence:
`ReadOnly`, that it leaves the store alone however it ends; `KeepsInterference`, that it leaves
alone what interferes; `Preserves`, that it keeps up a property of the store; `Respects`, that it
cannot tell some stores apart; `FailsWith` and `Returns`, what it can end with; and `Answers`, what
it ends with when nothing interferes. Two operations on stores of any kind are compared by
`Matches`, when they only read, and by `Tracks`, when they write.
-/

namespace ArtifactRegistry.Action

variable {σ ε ε' α β : Type} {world after : World σ}

@[simp] theorem runIn_pure (value : α) :
    (pure value : Action σ ε α).runIn world = (.ok value, world) := rfl

@[simp] theorem runIn_throw (error : ε) :
    (throw error : Action σ ε α).runIn world = (.error error, world) := rfl

@[simp] theorem runIn_get : (get : Action σ ε (World σ)).runIn world = (.ok world, world) := rfl

@[simp] theorem runIn_modify (change : World σ → World σ) :
    (modify change : Action σ ε Unit).runIn world = (.ok (), change world) := rfl

@[simp] theorem runIn_record (level : Log.Level) (message : String)
    (fields : List (String × Log.Value)) :
    (record level message fields : Action σ ε Unit).runIn world =
      (.ok (), { world with output := .record ⟨level, message, fields⟩ :: world.output }) := rfl

theorem runIn_bind (first : Action σ ε α) (next : α → Action σ ε β) (world : World σ) :
    (first >>= next).runIn world =
      match first.runIn world with
      | (.ok value, middle) => (next value).runIn middle
      | (.error error, middle) => (.error error, middle) := by
  simp only [runIn, ExceptT.run, bind, ExceptT.bind, ExceptT.mk, StateT.run, StateT.bind]
  cases first world with
  | mk result middle => cases result <;> rfl

/-- A sequence starts with its first part, when that succeeds. -/
theorem runIn_bind_of_ok {first : Action σ ε α} {value : α} {middle : World σ}
    (ran : first.runIn world = (.ok value, middle)) (next : α → Action σ ε β) :
    (first >>= next).runIn world = (next value).runIn middle := by
  rw [runIn_bind, ran]

/-- A sequence succeeds when both parts do, one after the other. -/
theorem runIn_bind_eq_ok_iff {first : Action σ ε α} {next : α → Action σ ε β} {value : β} :
    (first >>= next).runIn world = (.ok value, after) ↔ ∃ between middle,
      first.runIn world = (.ok between, middle) ∧ (next between).runIn middle = (.ok value, after) := by
  rw [runIn_bind]
  rcases first.runIn world with ⟨error | between, middle⟩
  · constructor
    · intro ran
      cases ran
    · rintro ⟨between, middle, started, -⟩
      cases started
  · constructor
    · intro ran
      exact ⟨between, middle, rfl, ran⟩
    · rintro ⟨_, _, started, ran⟩
      cases started
      exact ran

/-- An operation whose outcome is looked at never fails itself. -/
@[simp] theorem runIn_outcome (action : Action σ ε α) :
    (outcome action : Action σ ε' (Except ε α)).runIn world =
      (.ok (action.runIn world).1, (action.runIn world).2) := rfl

@[simp] theorem runIn_withErrors (wrap : ε → ε') (action : Action σ ε α) :
    (withErrors wrap action).runIn world =
      ((action.runIn world).1.mapError wrap, (action.runIn world).2) := rfl

@[simp] theorem runIn_ite {condition : Prop} [Decidable condition] (yes no : Action σ ε α) :
    (if condition then yes else no).runIn world =
      if condition then yes.runIn world else no.runIn world := by
  split <;> rfl

theorem runIn_isCancelled_callers (world : World σ) :
    (isCancelled .callers : Action σ ε Bool).runIn world =
      (.ok (world.interference.fired world.calls world.looks),
        { world with looks := world.looks + 1 }) := rfl

theorem runIn_isCancelled_fresh (world : World σ) :
    (isCancelled .fresh : Action σ ε Bool).runIn world = (.ok false, world) := rfl

/-- A look at the token changes nothing but the count of looks. -/
theorem runIn_isCancelled (token : Token) (world : World σ) :
    ∃ fired looks, (isCancelled token : Action σ ε Bool).runIn world =
      (.ok fired, { world with looks }) := by
  cases token with
  | callers => exact ⟨_, _, runIn_isCancelled_callers world⟩
  | fresh => exact ⟨_, world.looks, runIn_isCancelled_fresh world⟩

/-- A token is live, or has fired and stops the operation. -/
theorem runIn_ensureLive (token : Token) (world : World σ) :
    ∃ looks, (ensureLive token).runIn world = (.ok (), { world with looks }) ∨
      (ensureLive token).runIn world = (.error .cancelled, { world with looks }) := by
  obtain ⟨fired, looks, looked⟩ := runIn_isCancelled (ε := StorageError) token world
  refine ⟨looks, ?_⟩
  simp only [ensureLive, runIn_bind, looked]
  cases fired with
  | false => exact .inl rfl
  | true => exact .inr rfl

/-- A call that is lost does nothing, any other runs; both are counted. -/
theorem runIn_call (action : Action σ StorageError α) (world : World σ) :
    (call action).runIn world =
      if world.interference.fails (world.calls + 1) then
        (.error (.medium .injected), { world with calls := world.calls + 1 })
      else ((action.runIn world).1, { (action.runIn world).2 with calls := world.calls + 1 }) := by
  cases lost : world.interference.fails (world.calls + 1) with
  | true =>
    simp only [call, runIn_bind, runIn_get, lost, if_true, runIn_pure, runIn_modify]
    rfl
  | false =>
    simp only [call, runIn_bind, runIn_get, lost, Bool.false_eq_true, if_false, runIn_outcome,
      runIn_modify]
    rcases action.runIn world with ⟨error | value, after⟩ <;> rfl

/-- What a call leaves in the store, it has lost or done. -/
theorem call_ran {action : Action σ StorageError α} {result : Except StorageError α}
    (ran : (call action).runIn world = (result, after)) :
    (∃ error, result = .error error ∧ after.store = world.store) ∨
      ∃ returned, action.runIn world = (result, returned) ∧ after.store = returned.store := by
  rw [runIn_call] at ran
  split at ran
  · cases ran
    exact .inl ⟨_, rfl, rfl⟩
  · obtain ⟨rfl, rfl⟩ := Prod.mk.inj ran
    exact .inr ⟨_, rfl, rfl⟩

/-! ## Operations that only read -/

/-- Whatever the world, an operation leaves the store and the interference as they are. -/
def ReadOnly (action : Action σ ε α) : Prop :=
  ∀ world, (action.runIn world).2.store = world.store ∧
    (action.runIn world).2.interference = world.interference

namespace ReadOnly

theorem store_eq {action : Action σ ε α} {result : Except ε α} (readOnly : ReadOnly action)
    (ran : action.runIn world = (result, after)) : after.store = world.store := by
  have kept := (readOnly world).1
  rwa [ran] at kept

theorem interference_eq {action : Action σ ε α} {result : Except ε α} (readOnly : ReadOnly action)
    (ran : action.runIn world = (result, after)) : after.interference = world.interference := by
  have kept := (readOnly world).2
  rwa [ran] at kept

protected theorem pure (value : α) : ReadOnly (pure value : Action σ ε α) :=
  fun _ => ⟨rfl, rfl⟩

protected theorem throw (error : ε) : ReadOnly (throw error : Action σ ε α) :=
  fun _ => ⟨rfl, rfl⟩

protected theorem record (level : Log.Level) (message : String)
    (fields : List (String × Log.Value)) :
    ReadOnly (record level message fields : Action σ ε Unit) :=
  fun _ => ⟨rfl, rfl⟩

protected theorem bind {first : Action σ ε α} {next : α → Action σ ε β} (reads : ReadOnly first)
    (readsNext : ∀ value, ReadOnly (next value)) : ReadOnly (first >>= next) := by
  intro world
  rw [runIn_bind]
  rcases ran : first.runIn world with ⟨error | value, middle⟩
  · exact ⟨reads.store_eq ran, reads.interference_eq ran⟩
  · obtain ⟨store, interference⟩ := readsNext value middle
    exact ⟨store.trans (reads.store_eq ran), interference.trans (reads.interference_eq ran)⟩

protected theorem outcome {action : Action σ ε α} (reads : ReadOnly action) :
    ReadOnly (outcome action : Action σ ε' (Except ε α)) :=
  reads

protected theorem isCancelled (token : Token) :
    ReadOnly (isCancelled token : Action σ ε Bool) := by
  intro world
  cases token with
  | callers => exact ⟨rfl, rfl⟩
  | fresh => exact ⟨rfl, rfl⟩

protected theorem ensureLive (token : Token) : ReadOnly (ensureLive token : Action σ _ Unit) := by
  apply (ReadOnly.isCancelled token).bind
  intro fired
  cases fired with
  | false => exact .pure ()
  | true => exact .throw StorageError.cancelled

protected theorem call {action : Action σ StorageError α} (reads : ReadOnly action) :
    ReadOnly (call action) := by
  intro world
  rw [runIn_call]
  split
  · exact ⟨rfl, rfl⟩
  · exact reads world

protected theorem mapM {β : Type} {operation : α → Action σ ε β}
    (reads : ∀ item, ReadOnly (operation item)) (items : List α) :
    ReadOnly (items.mapM operation) := by
  induction items with
  | nil =>
    rw [List.mapM_nil]
    exact .pure []
  | cons item rest ih =>
    rw [List.mapM_cons]
    apply (reads item).bind
    intro result
    apply ih.bind
    intro results
    exact .pure (result :: results)

end ReadOnly

/-! ## Operations that leave the schedule alone -/

/-- Whatever the world, an operation does not change what interferes. -/
def KeepsInterference (action : Action σ ε α) : Prop :=
  ∀ world, (action.runIn world).2.interference = world.interference

theorem ReadOnly.keepsInterference {action : Action σ ε α} (reads : ReadOnly action) :
    KeepsInterference action :=
  fun world => (reads world).2

namespace KeepsInterference

theorem interference_eq {action : Action σ ε α} {result : Except ε α}
    (keeps : KeepsInterference action) (ran : action.runIn world = (result, after)) :
    after.interference = world.interference := by
  have kept := keeps world
  rwa [ran] at kept

protected theorem bind {first : Action σ ε α} {next : α → Action σ ε β}
    (keeps : KeepsInterference first) (keepsNext : ∀ value, KeepsInterference (next value)) :
    KeepsInterference (first >>= next) := by
  intro world
  rw [runIn_bind]
  rcases ran : first.runIn world with ⟨error | value, middle⟩
  · exact keeps.interference_eq ran
  · exact (keepsNext value middle).trans (keeps.interference_eq ran)

protected theorem call {action : Action σ StorageError α} (keeps : KeepsInterference action) :
    KeepsInterference (call action) := by
  intro world
  rw [runIn_call]
  split
  · rfl
  · exact keeps world

end KeepsInterference

/-! ## Operations that keep up a property -/

/-- Whatever the world, an operation keeps up a property of the store. -/
def Preserves (Holds : σ → Prop) (action : Action σ ε α) : Prop :=
  ∀ world, Holds world.store → Holds (action.runIn world).2.store

theorem ReadOnly.preserves {action : Action σ ε α} (reads : ReadOnly action) (Holds : σ → Prop) :
    Preserves Holds action := by
  intro world holds
  rwa [(reads world).1]

namespace Preserves

variable {Holds : σ → Prop}

theorem holds {action : Action σ ε α} {result : Except ε α} (preserves : Preserves Holds action)
    (ran : action.runIn world = (result, after)) (before : Holds world.store) :
    Holds after.store := by
  have kept := preserves world before
  rwa [ran] at kept

protected theorem bind {first : Action σ ε α} {next : α → Action σ ε β}
    (keeps : Preserves Holds first) (keepsNext : ∀ value, Preserves Holds (next value)) :
    Preserves Holds (first >>= next) := by
  intro world before
  rw [runIn_bind]
  rcases ran : first.runIn world with ⟨error | value, middle⟩
  · exact keeps.holds ran before
  · exact keepsNext value middle (keeps.holds ran before)

protected theorem call {action : Action σ StorageError α} (keeps : Preserves Holds action) :
    Preserves Holds (call action) := by
  intro world before
  rw [runIn_call]
  split
  · exact before
  · exact keeps world before

end Preserves

/-! ## Operations that cannot tell stores apart -/

/-- On stores that are alike, an operation ends the same and leaves stores that are alike. -/
def Respects (Alike : σ → σ → Prop) (action : Action σ ε α) : Prop :=
  ∀ world other, Alike world.store other → ∃ other',
    action.runIn { world with store := other } =
      ((action.runIn world).1, { (action.runIn world).2 with store := other' }) ∧
    Alike (action.runIn world).2.store other'

namespace Respects

variable {Alike : σ → σ → Prop}

protected theorem pure (value : α) : Respects Alike (pure value : Action σ ε α) :=
  fun _ other alike => ⟨other, rfl, alike⟩

protected theorem throw (error : ε) : Respects Alike (throw error : Action σ ε α) :=
  fun _ other alike => ⟨other, rfl, alike⟩

protected theorem record (level : Log.Level) (message : String)
    (fields : List (String × Log.Value)) :
    Respects Alike (record level message fields : Action σ ε Unit) :=
  fun _ other alike => ⟨other, rfl, alike⟩

protected theorem bind {first : Action σ ε α} {next : α → Action σ ε β}
    (respects : Respects Alike first) (continues : ∀ value, Respects Alike (next value)) :
    Respects Alike (first >>= next) := by
  intro world other alike
  obtain ⟨middle', ran', alike'⟩ := respects world other alike
  rw [runIn_bind, runIn_bind, ran']
  rcases ran : first.runIn world with ⟨error | value, middle⟩
  · rw [ran] at alike'
    exact ⟨middle', rfl, alike'⟩
  · rw [ran] at alike'
    exact continues value middle middle' alike'

protected theorem ensureLive (token : Token) : Respects Alike (ensureLive token) := by
  apply Respects.bind
  · intro world other alike
    cases token with
    | callers => exact ⟨other, rfl, alike⟩
    | fresh => exact ⟨other, rfl, alike⟩
  · intro fired
    cases fired with
    | false => exact .pure ()
    | true => exact .throw StorageError.cancelled

protected theorem call {action : Action σ StorageError α} (respects : Respects Alike action) :
    Respects Alike (call action) := by
  intro world other alike
  obtain ⟨other', ran', alike'⟩ := respects world other alike
  rw [runIn_call, runIn_call, ran']
  cases world.interference.fails (world.calls + 1) with
  | true => exact ⟨other, rfl, alike⟩
  | false => exact ⟨other', rfl, alike'⟩

end Respects

/-! ## What operations can end with -/

/-- Whatever the world, an operation fails with errors of one kind only. -/
def FailsWith (Kind : ε → Prop) (action : Action σ ε α) : Prop :=
  ∀ world error, (action.runIn world).1 = .error error → Kind error

namespace FailsWith

variable {Kind : ε → Prop}

protected theorem pure (value : α) : FailsWith Kind (pure value : Action σ ε α) := nofun

protected theorem record (level : Log.Level) (message : String)
    (fields : List (String × Log.Value)) :
    FailsWith Kind (record level message fields : Action σ ε Unit) := nofun

protected theorem throw {error : ε} (kind : Kind error) :
    FailsWith Kind (throw error : Action σ ε α) := by
  rintro world _ ⟨⟩
  exact kind

protected theorem get : FailsWith Kind (get : Action σ ε (World σ)) := nofun

protected theorem modify (change : World σ → World σ) :
    FailsWith Kind (modify change : Action σ ε Unit) := nofun

protected theorem outcome (action : Action σ ε' α) :
    FailsWith Kind (outcome action : Action σ ε (Except ε' α)) := nofun

protected theorem bind {first : Action σ ε α} {next : α → Action σ ε β}
    (fails : FailsWith Kind first) (failsNext : ∀ value, FailsWith Kind (next value)) :
    FailsWith Kind (first >>= next) := by
  intro world error failed
  rw [runIn_bind] at failed
  rcases ran : first.runIn world with ⟨_ | value, middle⟩
  · rw [ran] at failed
    cases failed
    exact fails world error (congrArg Prod.fst ran)
  · rw [ran] at failed
    exact failsNext value middle error failed

theorem mono {Kind' : ε → Prop} {action : Action σ ε α} (fails : FailsWith Kind action)
    (weaker : ∀ error, Kind error → Kind' error) : FailsWith Kind' action :=
  fun world error failed => weaker error (fails world error failed)

protected theorem isCancelled (token : Token) :
    FailsWith Kind (isCancelled token : Action σ ε Bool) := by
  intro world error failed
  obtain ⟨fired, looks, looked⟩ := runIn_isCancelled (ε := ε) token world
  rw [looked] at failed
  cases failed

protected theorem ensureLive {Kind : StorageError → Prop} (cancelled : Kind .cancelled)
    (token : Token) : FailsWith Kind (ensureLive token : Action σ StorageError Unit) := by
  refine (FailsWith.isCancelled token).bind fun fired => ?_
  cases fired with
  | true => exact .throw cancelled
  | false => exact .pure ()

/-- After a look at an outcome, the errors are those that are thrown for it. -/
theorem outcome_bind {Kind' : ε' → Prop} {first : Action σ ε α}
    {next : Except ε α → Action σ ε' β} (fails : FailsWith Kind first)
    (failed : ∀ error, Kind error → FailsWith Kind' (next (.error error)))
    (succeeded : ∀ value, FailsWith Kind' (next (.ok value))) :
    FailsWith Kind' (outcome first >>= next) := by
  intro world error ran
  rw [runIn_bind, runIn_outcome] at ran
  rcases ended : first.runIn world with ⟨reason | value, middle⟩
  · rw [ended] at ran
    exact failed reason (fails world reason (congrArg Prod.fst ended)) middle error ran
  · rw [ended] at ran
    exact succeeded value middle error ran

protected theorem withErrors {Kind' : ε' → Prop} {action : Action σ ε α} {wrap : ε → ε'}
    (fails : FailsWith Kind action) (wraps : ∀ error, Kind error → Kind' (wrap error)) :
    FailsWith Kind' (withErrors wrap action) := by
  intro world error failed
  rw [runIn_withErrors, mapError_eq_error_iff] at failed
  obtain ⟨reason, failed, rfl⟩ := failed
  exact wraps reason (fails world reason failed)

protected theorem call {Kind : StorageError → Prop} {action : Action σ StorageError α}
    (lost : Kind (.medium .injected)) (fails : FailsWith Kind action) :
    FailsWith Kind (call action) := by
  intro world error failed
  rw [runIn_call] at failed
  split at failed
  · cases failed
    exact lost
  · exact fails world error failed

end FailsWith

/-- Whatever the world, an operation that succeeds returns a value of one kind. -/
def Returns (Kind : α → Prop) (action : Action σ ε α) : Prop :=
  ∀ world value, (action.runIn world).1 = .ok value → Kind value

namespace Returns

variable {Kind : β → Prop}

protected theorem pure {value : β} (kind : Kind value) :
    Returns Kind (pure value : Action σ ε β) := by
  rintro world _ ⟨⟩
  exact kind

/-- Only the end of a sequence returns something. -/
protected theorem bind {first : Action σ ε α} {next : α → Action σ ε β}
    (returns : ∀ value, Returns Kind (next value)) : Returns Kind (first >>= next) := by
  intro world value returned
  rw [runIn_bind] at returned
  rcases ran : first.runIn world with ⟨error | middle, after⟩
  · rw [ran] at returned
    cases returned
  · rw [ran] at returned
    exact returns middle after value returned

end Returns

/-! ## Runs that nothing interferes with -/

section Calm

variable (calm : world.interference = .none)

include calm

theorem runIn_call_of_calm (action : Action σ StorageError α) :
    (call action).runIn world =
      ((action.runIn world).1, { (action.runIn world).2 with calls := world.calls + 1 }) := by
  rw [runIn_call, calm]
  rfl

theorem runIn_isCancelled_of_calm (token : Token) :
    ∃ looks, (isCancelled token : Action σ ε Bool).runIn world =
      (.ok false, { world with looks }) := by
  cases token with
  | callers =>
    refine ⟨world.looks + 1, ?_⟩
    change (Except.ok (world.interference.fired world.calls world.looks), _) = _
    rw [calm]
    rfl
  | fresh => exact ⟨world.looks, rfl⟩

theorem runIn_ensureLive_of_calm (token : Token) :
    ∃ looks, (ensureLive token).runIn world = (.ok (), { world with looks }) := by
  obtain ⟨looks, looked⟩ := runIn_isCancelled_of_calm (ε := StorageError) calm token
  exact ⟨looks, runIn_bind_of_ok looked _⟩

end Calm

/-- With nothing in the way, an operation on a store ends with a result and leaves the store alone. -/
def Answers (store : σ) (action : Action σ ε α) (result : Except ε α) : Prop :=
  ∀ world, world.store = store → world.interference = .none →
    ∃ after, action.runIn world = (result, after) ∧ after.store = store ∧
      after.interference = .none

theorem ReadOnly.answers {store : σ} {action : Action σ ε α} {result : Except ε α}
    (reads : ReadOnly action)
    (ran : ∀ world, world.store = store → world.interference = .none →
      (action.runIn world).1 = result) : Answers store action result := by
  rintro world rfl calm
  obtain ⟨store_eq, interference_eq⟩ := reads world
  exact ⟨_, Prod.ext (ran world rfl calm) rfl, store_eq, interference_eq.trans calm⟩

namespace Answers

variable {store : σ}

/-- An operation has one answer only. -/
theorem unique {action : Action σ ε α} {result result' : Except ε α}
    (answers : Answers store action result) (answers' : Answers store action result') :
    result = result' := by
  obtain ⟨after, ran, -⟩ := answers { store } rfl rfl
  obtain ⟨after', ran', -⟩ := answers' { store } rfl rfl
  exact congrArg Prod.fst (ran.symm.trans ran')

protected theorem pure (value : α) : Answers store (pure value : Action σ ε α) (.ok value) :=
  fun world same calm => ⟨world, rfl, same, calm⟩

protected theorem throw (error : ε) : Answers store (throw error : Action σ ε α) (.error error) :=
  fun world same calm => ⟨world, rfl, same, calm⟩

protected theorem record (level : Log.Level) (message : String)
    (fields : List (String × Log.Value)) :
    Answers store (record level message fields : Action σ ε Unit) (.ok ()) :=
  fun _ same calm => ⟨_, rfl, same, calm⟩

/-- A sequence answers as its parts do, one after the other. -/
protected theorem bind {first : Action σ ε α} {next : α → Action σ ε β} {result : Except ε α}
    {answer : α → Except ε β} (answers : Answers store first result)
    (continues : ∀ value, result = .ok value → Answers store (next value) (answer value)) :
    Answers store (first >>= next) (result >>= answer) := by
  intro world same calm
  obtain ⟨middle, ran, same, calm⟩ := answers world same calm
  rw [runIn_bind, ran]
  cases result with
  | error error => exact ⟨middle, rfl, same, calm⟩
  | ok value => exact continues value rfl middle same calm

theorem bind_ok {first : Action σ ε α} {next : α → Action σ ε β} {value : α} {result : Except ε β}
    (answers : Answers store first (.ok value)) (continues : Answers store (next value) result) :
    Answers store (first >>= next) result := by
  intro world same calm
  obtain ⟨middle, ran, same, calm⟩ := answers world same calm
  rw [runIn_bind_of_ok ran]
  exact continues middle same calm

theorem bind_error {first : Action σ ε α} {next : α → Action σ ε β} {error : ε}
    (answers : Answers store first (.error error)) :
    Answers store (first >>= next) (.error error) := by
  intro world same calm
  obtain ⟨middle, ran, kept⟩ := answers world same calm
  exact ⟨middle, by rw [runIn_bind, ran], kept⟩

protected theorem outcome {action : Action σ ε α} {result : Except ε α}
    (answers : Answers store action result) :
    Answers store (outcome action : Action σ ε' (Except ε α)) (.ok result) := by
  intro world same calm
  obtain ⟨after, ran, kept⟩ := answers world same calm
  exact ⟨after, by rw [runIn_outcome, ran], kept⟩

protected theorem withErrors {action : Action σ ε α} {result : Except ε α} (wrap : ε → ε')
    (answers : Answers store action result) :
    Answers store (withErrors wrap action) (result.mapError wrap) := by
  intro world same calm
  obtain ⟨after, ran, kept⟩ := answers world same calm
  exact ⟨after, by rw [runIn_withErrors, ran], kept⟩

protected theorem call {action : Action σ StorageError α} {result : Except StorageError α}
    (answers : Answers store action result) : Answers store (call action) result := by
  intro world same calm
  obtain ⟨after, ran, kept⟩ := answers world same calm
  exact ⟨{ after with calls := world.calls + 1 }, by rw [runIn_call_of_calm calm, ran], kept⟩

protected theorem isCancelled (token : Token) :
    Answers store (isCancelled token : Action σ ε Bool) (.ok false) := by
  intro world same calm
  obtain ⟨looks, looked⟩ := runIn_isCancelled_of_calm calm token
  exact ⟨_, looked, same, calm⟩

protected theorem ensureLive (token : Token) : Answers store (ensureLive token) (.ok ()) := by
  intro world same calm
  obtain ⟨looks, looked⟩ := runIn_ensureLive_of_calm calm token
  exact ⟨_, looked, same, calm⟩

/-- Operations one after the other answer with the answers, up to the first that is an error. -/
protected theorem mapM {operation : α → Action σ ε β} {answer : α → Except ε β}
    (answers : ∀ item, Answers store (operation item) (answer item)) (items : List α) :
    Answers store (items.mapM operation) (items.mapM answer) := by
  induction items with
  | nil =>
    rw [List.mapM_nil, List.mapM_nil]
    exact .pure []
  | cons item rest ih =>
    rw [List.mapM_cons, List.mapM_cons]
    exact (answers item).bind fun value _ => ih.bind fun values _ => .pure (value :: values)

end Answers

/-! ## The same operation on two stores -/

/-- Two results are the same error, or values that go together. -/
inductive Agrees (Same : α → β → Prop) : Except ε α → Except ε β → Prop
  | error (error : ε) : Agrees Same (.error error) (.error error)
  | ok {value : α} {value' : β} (same : Same value value') : Agrees Same (.ok value) (.ok value')

variable {τ α' β' : Type} {Lost : ε → Prop} {Lost' : ε' → Prop} {Same : α → α' → Prop}
  {Same' : β → β' → Prop}

protected theorem Agrees.refl (result : Except ε α) : Agrees Eq result result := by
  cases result with
  | error error => exact .error error
  | ok value => exact .ok rfl

theorem Agrees.eq {result result' : Except ε α} (agrees : Agrees Eq result result') :
    result = result' := by
  cases agrees with
  | error error => rfl
  | ok same => rw [same]

/-- On the second of two stores an operation answers what goes with the answer of the other on the
first, or else with an error of one kind. -/
def Matches (store : σ) (store' : τ) (Lost : ε → Prop) (Same : α → α' → Prop)
    (action : Action σ ε α) (action' : Action τ ε α') : Prop :=
  ∃ result', Answers store' action' result' ∧
    (Fails Lost result' ∨
      ∃ result, Answers store action result ∧ Agrees Same result result')

namespace Matches

variable {store : σ} {store' : τ}

theorem of_answers {action : Action σ ε α} {action' : Action τ ε α'} {result : Except ε α}
    {result' : Except ε α'} (answers : Answers store action result)
    (answers' : Answers store' action' result') (agrees : Agrees Same result result') :
    Matches store store' Lost Same action action' :=
  ⟨result', answers', .inr ⟨result, answers, agrees⟩⟩

/-- An operation whose answer is lost matches any other. -/
theorem of_lost {action : Action σ ε α} {action' : Action τ ε α'} {error : ε}
    (answers' : Answers store' action' (.error error)) (lost : Lost error) :
    Matches store store' Lost Same action action' :=
  ⟨.error error, answers', .inl ⟨error, rfl, lost⟩⟩

protected theorem pure {value : α} {value' : α'} (same : Same value value') :
    Matches store store' Lost Same (pure value) (pure value') :=
  .of_answers (.pure value) (.pure value') (.ok same)

protected theorem throw (error : ε) :
    Matches store store' Lost Same (throw error) (throw error) :=
  .of_answers (.throw error) (.throw error) (.error error)

/-- Operations whose values are known come first. -/
theorem bind_of_ok {first : Action σ ε α} {first' : Action τ ε α'} {next : α → Action σ ε β}
    {next' : α' → Action τ ε β'} {value : α} {value' : α'}
    (answers : Answers store first (.ok value)) (answers' : Answers store' first' (.ok value'))
    (continues : Matches store store' Lost Same' (next value) (next' value')) :
    Matches store store' Lost Same' (first >>= next) (first' >>= next') := by
  obtain ⟨result', ends', alternatives⟩ := continues
  refine ⟨result', answers'.bind_ok ends', alternatives.imp_right ?_⟩
  rintro ⟨result, ends, agrees⟩
  exact ⟨result, answers.bind_ok ends, agrees⟩

protected theorem bind {first : Action σ ε α} {first' : Action τ ε α'} {next : α → Action σ ε β}
    {next' : α' → Action τ ε β'} (starts : Matches store store' Lost Same first first')
    (continues : ∀ value value', Same value value' →
      Matches store store' Lost Same' (next value) (next' value')) :
    Matches store store' Lost Same' (first >>= next) (first' >>= next') := by
  obtain ⟨result', answers', ⟨error, rfl, lost⟩ | ⟨result, answers, agrees⟩⟩ := starts
  · exact .of_lost answers'.bind_error lost
  cases agrees with
  | error error => exact .of_answers answers.bind_error answers'.bind_error (.error error)
  | @ok value value' same =>
    exact bind_of_ok answers answers' (continues value value' same)

theorem throw_bind (error : ε) {next : α → Action σ ε β} {next' : α' → Action τ ε β'} :
    Matches store store' Lost Same' (throw error >>= next) (throw error >>= next') :=
  .of_answers (Answers.throw error).bind_error (Answers.throw error).bind_error (.error error)

/-- An operation may look at an outcome, as long as it passes on that the answer is lost. -/
theorem outcome_bind {first : Action σ ε α} {first' : Action τ ε α'}
    {next : Except ε α → Action σ ε' β} {next' : Except ε α' → Action τ ε' β'}
    (starts : Matches store store' Lost Same first first')
    (loses : ∀ error, Lost error → ∃ error', Answers store' (next' (.error error)) (.error error') ∧
      Lost' error')
    (continues : ∀ result result', Agrees Same result result' →
      Matches store store' Lost' Same' (next result) (next' result')) :
    Matches store store' Lost' Same' (outcome first >>= next) (outcome first' >>= next') := by
  obtain ⟨result', answers', ⟨error, rfl, lost⟩ | ⟨result, answers, agrees⟩⟩ := starts
  · obtain ⟨error', ends', lost'⟩ := loses error lost
    exact .of_lost (answers'.outcome.bind_ok ends') lost'
  · exact bind_of_ok answers.outcome answers'.outcome (continues result result' agrees)

protected theorem withErrors {action : Action σ ε α} {action' : Action τ ε α'} {wrap : ε → ε'}
    (loses : ∀ error, Lost error → Lost' (wrap error))
    (starts : Matches store store' Lost Same action action') :
    Matches store store' Lost' Same (withErrors wrap action) (withErrors wrap action') := by
  obtain ⟨result', answers', ⟨error, rfl, lost⟩ | ⟨result, answers, agrees⟩⟩ := starts
  · exact .of_lost (answers'.withErrors wrap) (loses error lost)
  cases agrees with
  | error error =>
    exact .of_answers (answers.withErrors wrap) (answers'.withErrors wrap) (.error _)
  | ok same => exact .of_answers (answers.withErrors wrap) (answers'.withErrors wrap) (.ok same)

end Matches

/-- From stores that are alike, and with nothing in the way, two operations end with results that go
together and leave stores that are alike, or else the second ends with an error of one kind. -/
def Tracks (Alike : σ → τ → Prop) (Lost : ε → Prop) (Same : α → α' → Prop)
    (action : Action σ ε α) (action' : Action τ ε α') : Prop :=
  ∀ world world', Alike world.store world'.store → world.interference = .none →
    world'.interference = .none → ∃ result' after', action'.runIn world' = (result', after') ∧
      (Fails Lost result' ∨
        ∃ result after, action.runIn world = (result, after) ∧ Agrees Same result result' ∧
          Alike after.store after'.store ∧ after.interference = .none ∧ after'.interference = .none)

namespace Tracks

variable {Alike : σ → τ → Prop}

theorem of_matches {action : Action σ ε α} {action' : Action τ ε α'}
    (reads : ∀ store store', Alike store store' → Matches store store' Lost Same action action') :
    Tracks Alike Lost Same action action' := by
  intro world world' alike calm calm'
  obtain ⟨result', answers', alternatives⟩ := reads _ _ alike
  obtain ⟨after', ran', same', calm'⟩ := answers' world' rfl calm'
  refine ⟨result', after', ran', alternatives.imp_right ?_⟩
  rintro ⟨result, answers, agrees⟩
  obtain ⟨after, ran, same, calm⟩ := answers world rfl calm
  refine ⟨result, after, ran, agrees, ?_, calm, calm'⟩
  rwa [same, same']

protected theorem bind {first : Action σ ε α} {first' : Action τ ε α'} {next : α → Action σ ε β}
    {next' : α' → Action τ ε β'} (starts : Tracks Alike Lost Same first first')
    (continues : ∀ value value', Same value value' →
      Tracks Alike Lost Same' (next value) (next' value')) :
    Tracks Alike Lost Same' (first >>= next) (first' >>= next') := by
  intro world world' alike calm calm'
  obtain ⟨result', after', ran', ⟨error, rfl, lost⟩ | ⟨result, after, ran, agrees, kept⟩⟩ :=
    starts world world' alike calm calm'
  · exact ⟨.error error, after', by rw [runIn_bind, ran'], .inl ⟨error, rfl, lost⟩⟩
  cases agrees with
  | error error =>
    refine ⟨.error error, after', by rw [runIn_bind, ran'], .inr ?_⟩
    exact ⟨.error error, after, by rw [runIn_bind, ran], .error error, kept⟩
  | @ok value value' same =>
    obtain ⟨alike, calm, calm'⟩ := kept
    rw [runIn_bind_of_ok ran, runIn_bind_of_ok ran']
    exact continues value value' same after after' alike calm calm'

/-- Operations whose values are known come first, and only read. -/
theorem bind_of_ok {first : Action σ ε α} {first' : Action τ ε α'} {next : α → Action σ ε β}
    {next' : α' → Action τ ε β'} {value : α} {value' : α'}
    (answers : ∀ store, Answers store first (.ok value))
    (answers' : ∀ store, Answers store first' (.ok value'))
    (continues : Tracks Alike Lost Same' (next value) (next' value')) :
    Tracks Alike Lost Same' (first >>= next) (first' >>= next') := by
  intro world world' alike calm calm'
  obtain ⟨after, ran, same, calm⟩ := answers _ world rfl calm
  obtain ⟨after', ran', same', calm'⟩ := answers' _ world' rfl calm'
  rw [← same, ← same'] at alike
  rw [runIn_bind_of_ok ran, runIn_bind_of_ok ran']
  exact continues after after' alike calm calm'

/-- An operation may look at an outcome, as long as it passes on that the second one is lost. -/
theorem outcome_bind {first : Action σ ε α} {first' : Action τ ε α'}
    {next : Except ε α → Action σ ε' β} {next' : Except ε α' → Action τ ε' β'}
    (starts : Tracks Alike Lost Same first first')
    (loses : ∀ error, Lost error → ∀ world, ∃ error' after,
      (next' (.error error)).runIn world = (.error error', after) ∧ Lost' error')
    (continues : ∀ result result', Agrees Same result result' →
      Tracks Alike Lost' Same' (next result) (next' result')) :
    Tracks Alike Lost' Same' (outcome first >>= next) (outcome first' >>= next') := by
  intro world world' alike calm calm'
  obtain ⟨result', after', ran', ⟨error, rfl, lost⟩ | ⟨result, after, ran, agrees, kept⟩⟩ :=
    starts world world' alike calm calm'
  · obtain ⟨error', ended, ran, lost'⟩ := loses error lost after'
    refine ⟨.error error', ended, ?_, .inl ⟨error', rfl, lost'⟩⟩
    rw [runIn_bind, runIn_outcome, ran']
    exact ran
  · obtain ⟨alike, calm, calm'⟩ := kept
    rw [runIn_bind, runIn_bind, runIn_outcome, runIn_outcome, ran, ran']
    exact continues result result' agrees after after' alike calm calm'

protected theorem withErrors {action : Action σ ε α} {action' : Action τ ε α'} {wrap : ε → ε'}
    (loses : ∀ error, Lost error → Lost' (wrap error))
    (starts : Tracks Alike Lost Same action action') :
    Tracks Alike Lost' Same (withErrors wrap action) (withErrors wrap action') := by
  intro world world' alike calm calm'
  obtain ⟨result', after', ran', ⟨error, rfl, lost⟩ | ⟨result, after, ran, agrees, kept⟩⟩ :=
    starts world world' alike calm calm'
  · refine ⟨.error (wrap error), after', ?_, .inl ⟨_, rfl, loses error lost⟩⟩
    rw [runIn_withErrors, ran']
    rfl
  · refine ⟨result'.mapError wrap, after', by rw [runIn_withErrors, ran'], .inr ?_⟩
    refine ⟨result.mapError wrap, after, by rw [runIn_withErrors, ran], ?_, kept⟩
    cases agrees with
    | error error => exact .error (wrap error)
    | ok same => exact .ok same

end Tracks

end ArtifactRegistry.Action
