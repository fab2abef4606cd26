import ArtifactRegistry.Yaml.Schema

/-! # Sections

A section is a mapping with known fields. Other fields are ignored, no known field may be there
twice, and some must be there. A section with nothing in it may be left empty. The first fault in
reading order is reported; a missing field is noticed at the end.
-/

namespace ArtifactRegistry.Yaml

namespace Node

/-- How messages call a node. -/
def describe : Node → String
  | scalar text isPlain => (Value.ofScalar text isPlain).describe
  | sequence _ => "sequence"
  | mapping _ => "map"

/-- Fails because a node is not what was expected. -/
def refuse {α : Type} (node : Node) (expected : String) : Except ShapeError α :=
  .error ⟨[], .wrongType node.describe expected⟩

/-- The text of any scalar. -/
def text (expected : String) : Node → Except ShapeError String
  | scalar text _ => .ok text
  | node => node.refuse expected

/-- The entries of a mapping. An empty scalar is an empty mapping. -/
def entries (expected : String) : Node → Except ShapeError (List (Node × Node))
  | mapping entries => .ok entries
  | scalar "" _ => .ok []
  | node => node.refuse expected

/-- The name of one of several alternatives. -/
def variant {α : Type} (variants : List (String × α)) : Node → Except ShapeError α
  | scalar text _ =>
    match variants.lookup text with
    | some value => .ok value
    | none => .error ⟨[], .unknownVariant text (variants.map Prod.fst)⟩
  | node => node.refuse "a YAML tag starting with '!'"

end Node

/-- A field: how its value is read and put into the section. -/
structure Field (α : Type) where
  key : String
  read : Node → α → Except ShapeError α

structure Section (α : Type) where
  name : String
  fields : List (Field α)
  required : List String := []
  empty : α

namespace Section

variable {α : Type}

/-- Reads the entries behind those whose keys were seen. -/
def readEntries (layout : Section α) (seen : List String) (value : α) :
    List (Node × Node) → Except ShapeError α
  | [] =>
    match layout.required.find? fun name => !seen.contains name with
    | some name => .error ⟨[], .missingField name⟩
    | none => .ok value
  | (keyNode, node) :: rest => do
    let key ← keyNode.text "field identifier"
    match layout.fields.find? fun field => field.key = key with
    | none => readEntries layout seen value rest
    | some field =>
      if seen.contains key then throw ⟨[], .duplicateField key⟩
      let value ← (field.read node value).mapError (ShapeError.within (.key key))
      readEntries layout (key :: seen) value rest

def read (layout : Section α) (node : Node) : Except ShapeError α := do
  layout.readEntries [] layout.empty (← node.entries s!"struct {layout.name}")

end Section

end ArtifactRegistry.Yaml
