import ArtifactRegistry.Digest
import ArtifactRegistry.Json.Printer

/-! # Payloads

A payload is a non-empty byte string whose digest identifies a document. It is either taken over as
received or written in the canonical layout; it is never written anew afterwards.
-/

namespace ArtifactRegistry

structure Payload where
  bytes : Bytes
  nonempty : bytes ≠ []
deriving DecidableEq

/-- The only reason for not being a payload. -/
inductive PayloadError where
  | empty
deriving DecidableEq, Repr

def PayloadError.message : PayloadError → String
  | empty => "canonical payload is empty"

namespace Payload

/-- Takes bytes over as they are. -/
def verbatim (bytes : Bytes) : Except PayloadError Payload :=
  if nonempty : bytes = [] then .error .empty else .ok ⟨bytes, nonempty⟩

/-- Writes a value in the canonical layout. -/
def ofJson (value : Json.Value) : Except PayloadError Payload := verbatim value.canonical

def digest (payload : Payload) : Digest := Digest.ofBytes payload.bytes

end Payload

end ArtifactRegistry
