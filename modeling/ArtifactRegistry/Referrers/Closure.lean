import ArtifactRegistry.Referrers.Index

/-! # Keeping referrers alive

Garbage collection keeps what is marked. A marked manifest keeps its referrers alive, those keep
their own, and so on: the marks are extended to the smallest set that holds the referrers of all its
members. Marks that are no valid digests stay, and have no referrers.
-/

namespace ArtifactRegistry

/-- A set of digests in ascending order. -/
structure MarkSet where
  members : SortedMap Unit := ∅
deriving DecidableEq, Inhabited

namespace MarkSet

def contains (marks : MarkSet) (digest : Digest) : Bool := marks.members.contains digest.text

def insert (marks : MarkSet) (digest : Digest) : MarkSet := ⟨marks.members.insert digest.text ()⟩

def size (marks : MarkSet) : Nat := marks.members.size

def toList (marks : MarkSet) : List Digest := marks.members.keys.map Digest.mk

def ofList (digests : List Digest) : MarkSet := digests.foldl insert ⟨∅⟩

instance : Membership Digest MarkSet := ⟨fun marks digest => marks.contains digest = true⟩

end MarkSet

namespace Referrers

variable {σ : Type} [Backend σ]

/-- Marks the referrers of one subject; returns those that were not marked before, in order. -/
def markAll (repository : String) (subject : Digest) :
    List Digest → MarkSet → Action σ ReferrersError (MarkSet × List Digest)
  | [], marks => return (marks, [])
  | referrer :: rest, marks => do
    if marks.contains referrer then markAll repository subject rest marks
    else
      Action.record .debug "marking referrer"
        [("repository", .string repository), ("subject", .word subject.text),
          ("referrer", .word referrer.text)]
      let (marks, others) ← markAll repository subject rest (marks.insert referrer)
      return (marks, referrer :: others)

/-- Takes subjects from the front of a queue and appends their new referrers, until none is left.
The first argument bounds the number of subjects taken, and marks do not tell whether it was the bound
that ended the loop. The bound of `extendMarks` never is: under any larger one the marks are the same,
`extendMarks_closure`. -/
def extendFrom (repository : String) (token : Token) :
    Nat → List Digest → MarkSet → Action σ ReferrersError MarkSet
  | 0, _, marks => return marks
  | _ + 1, [], marks => return marks
  | bound + 1, subject :: queue, marks => do
    Action.withErrors ReferrersError.ofStorage (Action.ensureLive token)
    match subject.validate with
    | .error _ => extendFrom repository token bound queue marks
    | .ok _ =>
      let referrers ← digests repository token subject
      let (marks, added) ← markAll repository subject referrers marks
      extendFrom repository token bound (queue ++ added) marks

/-- Extends marks by all referrers of their members. Every subject is taken once, so as many as are
marked or linked are enough. -/
def extendMarks (marks : MarkSet) (repository : String) (token : Token) :
    Action σ ReferrersError MarkSet := do
  let bound := marks.size + Backend.linkBound (← get).store + 1
  let extended ← extendFrom repository token bound marks.toList marks
  Action.record .info "extended GC mark set with referrers"
    [("repository", .string repository), ("seeded", .number marks.size),
      ("added", .number (extended.size - marks.size))]
  return extended

end Referrers

end ArtifactRegistry
