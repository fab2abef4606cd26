import ArtifactRegistry.Bytes
import ArtifactRegistry.Sha2
import ArtifactRegistry.Text.Quoted
import ArtifactRegistry.Text.Split

/-! # Digests

A digest names content by an algorithm and the lowercase hexadecimal form of its hash, as in
`sha256:` and 64 characters. Documents may carry malformed digests, so a `Digest` keeps whatever
text was received; `validate` decides the grammar and says what is wrong, and a digest computed
from bytes is always valid. Digests are ordered as texts.
-/

namespace ArtifactRegistry

/-- The hash functions that a digest may name. -/
inductive Algorithm where
  | sha256
  | sha384
  | sha512
deriving DecidableEq, Repr

namespace Algorithm

def name : Algorithm → String
  | sha256 => "sha256"
  | sha384 => "sha384"
  | sha512 => "sha512"

/-- The number of hexadecimal characters of a hash. -/
def hexLength : Algorithm → Nat
  | sha256 => 64
  | sha384 => 96
  | sha512 => 128

def ofName? (name : String) : Option Algorithm :=
  [sha256, sha384, sha512].find? fun algorithm => algorithm.name = name

/-- The hash of a payload. -/
def hash : Algorithm → Bytes → Bytes
  | sha256 => Sha2.hash Sha2.sha256
  | sha384 => Sha2.hash Sha2.sha384
  | sha512 => Sha2.hash Sha2.sha512

theorem length_hash (algorithm : Algorithm) (payload : Bytes) :
    2 * (algorithm.hash payload).length = algorithm.hexLength := by
  cases algorithm <;> simp only [hash, hexLength]
  · rw [Sha2.length_hash _ _ (by decide)]; rfl
  · rw [Sha2.length_hash _ _ (by decide)]; rfl
  · rw [Sha2.length_hash _ _ (by decide)]; rfl

@[simp] theorem ofName?_name (algorithm : Algorithm) : ofName? algorithm.name = some algorithm := by
  cases algorithm <;> decide

end Algorithm

/-- A digest exactly as received, well formed or not. -/
structure Digest where
  text : String
deriving DecidableEq, Repr, Inhabited

/-- What is wrong with a malformed digest. -/
inductive DigestError where
  | empty
  | missingAlgorithm (digest : String)
  | unsupportedAlgorithm (digest algorithm : String)
  | invalidLength (digest : String) (algorithm : Algorithm) (actual : Nat)
  | invalidHex (digest : String)
deriving DecidableEq, Repr

def DigestError.message : DigestError → String
  | empty => "digest is empty"
  | missingAlgorithm digest => s!"digest {Text.quote digest} has no algorithm prefix"
  | unsupportedAlgorithm digest algorithm =>
    s!"digest {Text.quote digest} uses unsupported algorithm {Text.quote algorithm}"
  | invalidLength digest algorithm actual =>
    s!"digest {Text.quote digest} has {actual} hex characters, "
      ++ s!"{algorithm.name} requires {algorithm.hexLength}"
  | invalidHex digest => s!"digest {Text.quote digest} contains characters outside [0-9a-f]"

namespace Digest

def isEmpty (digest : Digest) : Bool := digest.text = ""

/-- What follows the first colon, or the whole text when there is none. -/
def hex (digest : Digest) : String :=
  match Text.splitFirst? ':' digest.text with
  | some (_, hex) => hex
  | none => digest.text

/-- The characters of a written hash. -/
def isLowerHex (c : Char) : Bool := ('0' ≤ c && c ≤ '9') || ('a' ≤ c && c ≤ 'f')

/-- The algorithm of a well-formed digest. Lengths are counted in bytes. -/
def validate (digest : Digest) : Except DigestError Algorithm :=
  if digest.isEmpty then .error .empty
  else match Text.splitFirst? ':' digest.text with
    | none => .error (.missingAlgorithm digest.text)
    | some (name, hex) =>
      match Algorithm.ofName? name with
      | none => .error (.unsupportedAlgorithm digest.text name)
      | some algorithm =>
        if hex.utf8ByteSize ≠ algorithm.hexLength then
          .error (.invalidLength digest.text algorithm hex.utf8ByteSize)
        else if hex.toList.all isLowerHex then .ok algorithm
        else .error (.invalidHex digest.text)

/-- The digest of a text that satisfies the grammar. -/
def parse (text : String) : Except DigestError Digest :=
  (validate ⟨text⟩).map fun _ => ⟨text⟩

/-- The digest of a payload under an algorithm. -/
def compute (algorithm : Algorithm) (payload : Bytes) : Digest :=
  ⟨String.ofList (algorithm.name.toList ++ ':' :: Bytes.toHex (algorithm.hash payload))⟩

/-- The identity of a payload: its digest under SHA-256. -/
def ofBytes (payload : Bytes) : Digest := compute .sha256 payload

/-- Whether a payload hashes to the digest under the digest's own algorithm. -/
def verifies (digest : Digest) (payload : Bytes) : Except DigestError Bool :=
  digest.validate.map fun algorithm => compute algorithm payload = digest

/-- Ascending order, equal digests kept. -/
def sort (digests : List Digest) : List Digest :=
  digests.mergeSort fun a b => decide (a.text ≤ b.text)

end Digest

end ArtifactRegistry
