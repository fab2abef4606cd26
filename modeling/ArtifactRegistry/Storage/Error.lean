import ArtifactRegistry.Manifest.Error

/-! # Why storage fails -/

namespace ArtifactRegistry

/-- Failures of the medium that holds the content. -/
inductive MediumError where
  | notFound
  | alreadyExists
  | notDirectory
  | isDirectory
  | nameTooLong
  | zeroByteInName
  | invalidText
  /-- A fault that was provoked from outside. -/
  | injected
deriving DecidableEq, Repr

def MediumError.message : MediumError → String
  | notFound => "No such file or directory (os error 2)"
  | alreadyExists => "File exists (os error 17)"
  | notDirectory => "Not a directory (os error 20)"
  | isDirectory => "Is a directory (os error 21)"
  | nameTooLong => "File name too long (os error 36)"
  | zeroByteInName => "file name contained an unexpected NUL byte"
  | invalidText => "stream did not contain valid UTF-8"
  | injected => "injected fault"

inductive StorageError where
  | blobUnknown (digest : Digest)
  | manifestUnknown (digest : Digest)
  | pathNotFound (path : String)
  | invalidRepository (name : String)
  | invalidDigest (source : DigestError)
  | corrupted (digest : Digest)
  | unreadable (digest : Digest) (source : ManifestError)
  | cancelled
  | medium (source : MediumError)

def StorageError.message : StorageError → String
  | blobUnknown digest => s!"blob unknown: {digest.text}"
  | manifestUnknown digest => s!"manifest unknown: {digest.text}"
  | pathNotFound path => s!"path not found: {path}"
  | invalidRepository name => s!"invalid repository name {Text.quote name}"
  | invalidDigest source => s!"invalid digest: {source.message}"
  | corrupted digest => s!"stored content for {digest.text} failed integrity verification"
  | unreadable digest source => s!"stored manifest {digest.text} is unreadable: {source.message}"
  | cancelled => "operation cancelled"
  | medium source => s!"I/O error: {source.message}"

end ArtifactRegistry
