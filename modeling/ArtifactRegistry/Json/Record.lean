import ArtifactRegistry.Json.Reader

/-! # Records

A record is an object with known fields, or a list of their values in declared order. As an object
it may hold other members, which are skipped, but no known field twice. Fields that are absent keep
the value of the empty record unless they are required.
-/

namespace ArtifactRegistry.Json

/-- A field of records of type `δ`. -/
structure Field (δ : Type) where
  name : String
  required : Bool
  /-- Reads the field's value and stores it. -/
  store : Nat → Node → δ → Read δ

namespace Field

variable {δ α : Type}

def mayHave (name : String) (value : Reader α) (set : α → δ → δ) : Field δ :=
  ⟨name, false, fun depth node record => (value depth node).map (set · record)⟩

def mustHave (name : String) (value : Reader α) (set : α → δ → δ) : Field δ :=
  { mayHave name value set with required := true }

end Field

/-- The fields of a record type in declared order, and how messages call it. -/
structure Record (δ : Type) where
  name : String
  fields : List (Field δ)
  empty : δ

namespace Record

variable {δ : Type}

def expected (record : Record δ) : String := s!"struct {record.name}"

/-- Reads the members of an object, with the names of the fields that were stored. -/
def readMembers (fields : List (Field δ)) (depth : Nat) :
    List String → δ → List (StringToken × Node) → Read (List String × δ)
  | seen, value, [] => .ok (seen, value)
  | seen, value, (key, node) :: rest => do
    let name ← key.text
    match fields.find? fun field => field.name = name with
    | none => do
      node.skip
      readMembers fields depth seen value rest
    | some field =>
      if name ∈ seen then throw (.duplicateField name)
      else do
        let value ← field.store depth node value
        readMembers fields depth (name :: seen) value rest

/-- Fails when a required field was not stored. -/
def requireFields (seen : List String) : List (Field δ) → Read Unit
  | [] => .ok ()
  | field :: rest =>
    if field.required ∧ field.name ∉ seen then .error (.missingField field.name)
    else requireFields seen rest

/-- What may stand behind the last field of a record that is written as a list. -/
def endOfFields : ListEnd → Read Unit
  | .noSeparator => .error .trailingCharacters
  | stop => stop.read

/-- Reads field values in declared order; `position` counts the fields before. -/
def readItems (record : Record δ) (depth : Nat) (stop : ListEnd) :
    Nat → List (Field δ) → List Node → δ → Read δ
  | _, [], [], value => (endOfFields stop).map fun _ => value
  | _, [], _ :: _, _ => .error .trailingCharacters
  | position, field :: fields, [], value => do
    stop.read
    if field.required then
      throw (.wrongLength position s!"{record.expected} with {record.fields.length} elements")
    else readItems record depth stop (position + 1) fields [] value
  | position, field :: fields, node :: nodes, value => do
    let value ← field.store depth node value
    readItems record depth stop (position + 1) fields nodes value

def read (record : Record δ) : Reader δ
  | depth, .object members stop => do
    let depth ← enter depth
    let (seen, value) ← readMembers record.fields depth [] record.empty members
    stop.read
    requireFields seen record.fields
    return value
  | depth, .list items stop => do
    let depth ← enter depth
    readItems record depth stop 0 record.fields items record.empty
  | _, node => node.refuse record.expected

end Record

end ArtifactRegistry.Json
