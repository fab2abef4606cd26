import ArtifactRegistry.Manifest.Service
import ArtifactRegistry.Referrers.Error

/-! # The referrers of a subject

An artifact manifest that names a subject is a referrer of it. The index of a repository keeps the
digests of referrers as the link set of the subject, and lists the artifact manifests among them:
those with a creation time first, the latest at the top, and then the others in link order.
-/

namespace ArtifactRegistry

open Manifest

namespace Referrers

variable {σ : Type} [Backend σ]

/-- The annotations that may tell when an artifact was created; the first that is there counts. -/
def createdAnnotations : List String :=
  ["org.opencontainers.artifact.created", "io.cncf.oras.artifact.created"]

/-- When an artifact was created, if it says so. -/
def createdAt (digest : Digest) (artifact : Artifact) :
    Except ReferrersError (Option Timestamp) :=
  match createdAnnotations.find? artifact.annotations.contains with
  | none => .ok none
  | some key =>
    match Timestamp.parse ((artifact.annotations.get? key).getD "") with
    | .ok time => .ok (some time)
    | .error reason => .error (.annotationParse digest key reason)

/-- Links a referrer to its subject. -/
def record (repository : String) (token : Token) (subject referrer : Digest) :
    Action σ StorageError Unit := do
  match referrersLinkPath repository subject with
  | .error error => throw error
  | .ok path =>
    Store.addLink token path referrer
    Action.record .debug "recorded referrer link"
      [("repository", .string repository), ("subject", .word subject.text),
        ("referrer", .word referrer.text)]

/-- The digests that are linked to a subject. -/
def digests (repository : String) (token : Token) (subject : Digest) :
    Action σ ReferrersError (List Digest) := do
  match referrersLinkPath repository subject with
  | .error (.invalidDigest source) => throw (.invalidSubject source)
  | .error error => throw (.ofStorage error)
  | .ok path =>
    match ← Action.outcome (Store.listLinks token path) with
    | .ok digests => return digests
    | .error (.pathNotFound _) => return []
    | .error error => throw (.ofStorage error)

/-- An entry of a listing with its creation time. -/
structure Entry where
  created : Option Timestamp
  descriptor : Descriptor
deriving DecidableEq

/-- Loads an artifact manifest; other content is passed over. -/
def findArtifact (service : ManifestService) (token : Token) (referrer : Digest) :
    Action σ ReferrersError (Option Artifact) := do
  match ← Action.outcome (service.get token referrer) with
  | .error (.unreadable digest source) =>
    Action.record .warn "skipping unreadable referrer"
      [("referrer", .word digest.text), ("error", .word source.message)]
    return none
  | .error (.manifestUnknown digest) =>
    Action.record .warn "skipping referrer that is not a stored manifest"
      [("referrer", .word digest.text)]
    return none
  | .error error => throw (.ofStorage error)
  | .ok manifest =>
    match manifest.variant with
    | .artifact artifact => return some artifact
    | variant =>
      Action.record .warn "skipping referrer that is not an artifact manifest"
        [("referrer", .word referrer.text), ("kind", .word variant.kind.name)]
      return none

/-- Whether an artifact passes a filter; the empty filter lets everything pass. -/
def passes (artifactType : String) (artifact : Artifact) : Bool :=
  artifactType = "" || artifact.artifactType.getD "" = artifactType

/-- The entry of a linked digest, unless it is passed over. -/
def findEntry (service : ManifestService) (token : Token) (artifactType : String)
    (referrer : Digest) : Action σ ReferrersError (Option Entry) := do
  Action.withErrors ReferrersError.ofStorage (Action.ensureLive token)
  match ← findArtifact service token referrer with
  | none => return none
  | some artifact =>
    if !passes artifactType artifact then return none
    let stored ← Action.withErrors ReferrersError.ofStorage (Store.statBlob token referrer)
    match createdAt referrer artifact with
    | .error error => throw error
    | .ok created =>
      return some ⟨created,
        { stored with
          mediaType := Manifest.Kind.artifact.mediaType
          artifactType := artifact.artifactType }⟩

/-- The entries of several linked digests, in order. -/
def entries (service : ManifestService) (token : Token) (artifactType : String) :
    List Digest → Action σ ReferrersError (List Entry)
  | [] => return []
  | referrer :: rest => do
    let entry ← findEntry service token artifactType referrer
    let others ← entries service token artifactType rest
    return entry.toList ++ others

/-- Whether the first of two entries with creation times may stand before the second. -/
def notBefore (a b : Timestamp × Descriptor) : Bool := a.1.compare b.1 ≠ .lt

/-- The order of a listing: by creation time, the latest first, then entries without one. -/
def arrange (entries : List Entry) : List Descriptor :=
  let dated := entries.filterMap fun entry => entry.created.map fun time => (time, entry.descriptor)
  let undated := entries.filter fun entry => entry.created.isNone
  (dated.mergeSort notBefore).map Prod.snd ++ undated.map Entry.descriptor

/-- The artifact manifests that refer to a subject, of one type or of all. -/
def enumerate (service : ManifestService) (token : Token) (subject : Digest)
    (artifactType : String) : Action σ ReferrersError (List Descriptor) := do
  Action.record .debug "enumerate referrers"
    [("repository", .word service.repository), ("subject", .word subject.text),
      ("artifact_type", .string artifactType)]
  let linked ← digests service.repository token subject
  let entries ← entries service token artifactType linked
  return arrange entries

end Referrers

end ArtifactRegistry
