import ArtifactRegistry.Log
import ArtifactRegistry.Storage.Error

/-! # Operations on a store

An operation runs against a world: the store, what may interfere from outside, and what was written.
Two things interfere. A store call may be lost to a fault, and then changes nothing. A cancellation
token may fire at any moment; whoever holds the token notices when it looks. The world counts calls
and looks, so that any schedule of faults and any behaviour of a token can be stated as a function of
the counts. What an operation did before it failed stays done.
-/

namespace ArtifactRegistry

/-- When store calls fail and when the token fires. -/
structure Interference where
  /-- Whether the call with this number fails; calls are numbered from one. -/
  fails : Nat → Bool
  /-- Whether the token has fired after so many calls have returned and so many looks were taken. -/
  fired : (calls looks : Nat) → Bool

namespace Interference

def none : Interference := ⟨fun _ => false, fun _ _ => false⟩

/-- At most one failing call, and a token that fires once a number of calls have returned. -/
def planned (failAt cancelAfter : Option Nat) : Interference where
  fails call := failAt = some call
  fired calls _ := cancelAfter.any fun n => n ≤ calls

end Interference

structure World (σ : Type) where
  store : σ
  interference : Interference := .none
  /-- The calls that have returned. -/
  calls : Nat := 0
  /-- How often the token was looked at. -/
  looks : Nat := 0
  /-- What was written, the latest first. -/
  output : List Log.Output := []

/-- An operation that may fail with an `ε`. -/
abbrev Action (σ ε : Type) := ExceptT ε (StateM (World σ))

/-- Who can stop an operation: the caller, or nobody. -/
inductive Token where
  | callers
  | fresh
deriving DecidableEq, Repr

namespace Action

variable {σ ε ε' α : Type}

/-- Looks at a token. -/
def isCancelled : Token → Action σ ε Bool
  | .fresh => return false
  | .callers => modifyGet fun world =>
    (world.interference.fired world.calls world.looks, { world with looks := world.looks + 1 })

/-- Fails when the token has fired. -/
def ensureLive (token : Token) : Action σ StorageError Unit := do
  if ← isCancelled token then throw .cancelled

def write (output : Log.Output) : Action σ ε Unit :=
  modify fun world => { world with output := output :: world.output }

def record (level : Log.Level) (message : String) (fields : List (String × Log.Value) := []) :
    Action σ ε Unit :=
  write (.record ⟨level, message, fields⟩)

/-- Prints a line. -/
def print (line : String) : Action σ ε Unit := write (.printed (line ++ "\n"))

/-- Runs an operation whose errors are of another kind. -/
def withErrors (wrap : ε → ε') (action : Action σ ε α) : Action σ ε' α := action.adapt wrap

/-- Runs an operation and returns how it ended. -/
def outcome (action : Action σ ε α) : Action σ ε' (Except ε α) := ExceptT.lift action.run

/-- One call of a store. It is lost when the schedule says so, and counted when it has returned. -/
def call (action : Action σ StorageError α) : Action σ StorageError α := do
  let world ← get
  let number := world.calls + 1
  let result ←
    if world.interference.fails number then pure (.error (.medium .injected)) else outcome action
  modify fun world => { world with calls := number }
  liftExcept result
where
  liftExcept : Except StorageError α → Action σ StorageError α
    | .ok value => pure value
    | .error error => throw error

/-- Runs an operation against a world: how it ended and the world afterwards. -/
def runIn (action : Action σ ε α) (world : World σ) : Except ε α × World σ :=
  (ExceptT.run action).run world

end Action

end ArtifactRegistry
