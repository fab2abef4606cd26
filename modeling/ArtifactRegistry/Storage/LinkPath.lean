import ArtifactRegistry.Storage.Error

/-! # Where links live

The links of a subject are kept under a path made of the repository's name and the subject's digest.
Both are checked first, so that the path stays below the directory of links: a repository name has
components between slashes, none of them empty or a dot name.
-/

namespace ArtifactRegistry

def validRepositoryName (name : String) : Bool :=
  (Text.splitAll '/' name).all fun component =>
    component ≠ "" && component ≠ "." && component ≠ ".."

/-- The directory of a repository's links. -/
def referrersRoot (repository : String) : Except StorageError String :=
  if validRepositoryName repository then .ok s!"repositories/{repository}/_refs/subjects"
  else .error (.invalidRepository repository)

/-- The path under which the links of a subject are kept. -/
def referrersLinkPath (repository : String) (subject : Digest) : Except StorageError String := do
  let root ← referrersRoot repository
  let algorithm ← subject.validate.mapError .invalidDigest
  return s!"{root}/{algorithm.name}/{subject.hex}"

end ArtifactRegistry
