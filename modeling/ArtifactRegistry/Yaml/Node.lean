import ArtifactRegistry.Yaml.Token

/-! # Documents

The tokens of a text are read into a tree of nodes, in which scalars are still texts: what a scalar
means depends on who reads it. Entries, keys and values may be absent and are then empty plain
scalars. Every reading function returns what is left of the tokens with a proof that it is no longer,
so that all of them end.
-/

namespace ArtifactRegistry.Yaml

inductive Node where
  | scalar (text : String) (isPlain : Bool)
  | sequence (items : List Node)
  | mapping (entries : List (Node × Node))

namespace Node

/-- What stands where a node is absent. -/
def absent : Node := .scalar "" true

/-- A sequence of tokens that is left of another. -/
abbrev Left (tokens : List Token) := { left : List Token // left.length ≤ tokens.length }

/-- A sequence of tokens that is left of another after at least one was taken. -/
abbrev Less (tokens : List Token) := { left : List Token // left.length < tokens.length }

/-- What is read from tokens, and the tokens that are left. -/
abbrev Parse (α : Type) (tokens : List Token) := Except SyntaxError (α × Left tokens)

/-- Which tokens stand right behind an absent node. -/
inductive Position where
  | blockItem
  | unindentedItem
  | blockEntry
  | flowItemValue
  | flowKey
  | flowValue
deriving DecidableEq

def Position.endedBy : Position → Token → Bool
  | blockItem, token => token = .entry || token = .blockEnd
  | unindentedItem, token =>
    token = .entry || token = .key || token = .value || token = .blockEnd
  | blockEntry, token => token = .key || token = .value || token = .blockEnd
  | flowItemValue, token => token = .comma || token = .flowSequenceEnd
  | flowKey, token => token = .value || token = .comma || token = .flowMappingEnd
  | flowValue, token => token = .comma || token = .flowMappingEnd

/-- Whether nodes at a position may be in block style. -/
def Position.isBlock : Position → Bool
  | blockItem | unindentedItem | blockEntry => true
  | flowItemValue | flowKey | flowValue => false

mutual

/-- Reads a node. In block mappings, the entries of a sequence need not be indented. -/
def read (block unindented : Bool) (tokens : List Token) :
    Except SyntaxError (Node × Less tokens) :=
  match tokens with
  | .scalar text isPlain :: rest => .ok (.scalar text isPlain, ⟨rest, by simp⟩)
  | .flowSequenceStart :: rest => do
    let (items, ⟨left, _⟩) ← flowItems rest
    return (.sequence items, ⟨left, by simp; omega⟩)
  | .flowMappingStart :: rest => do
    let (entries, ⟨left, _⟩) ← flowEntries rest
    return (.mapping entries, ⟨left, by simp; omega⟩)
  | .sequenceStart :: rest => do
    if !block then throw .nodeExpected
    let (items, ⟨left, _⟩) ← blockItems rest
    return (.sequence items, ⟨left, by simp; omega⟩)
  | .mappingStart :: rest => do
    if !block then throw .nodeExpected
    let (entries, ⟨left, _⟩) ← blockEntries rest
    return (.mapping entries, ⟨left, by simp; omega⟩)
  | .entry :: rest => do
    if !unindented then throw .nodeExpected
    let (item, ⟨left, _⟩) ← optional .unindentedItem rest
    let (items, ⟨left, _⟩) ← unindentedItems left
    return (.sequence (item :: items), ⟨left, by simp; omega⟩)
  | _ => .error .nodeExpected
termination_by (tokens.length, 0)

/-- Reads a node that may be absent. -/
def optional (position : Position) (tokens : List Token) : Parse Node tokens := do
  if tokens.head?.any position.endedBy then return (absent, ⟨tokens, Nat.le_refl _⟩)
  let (node, ⟨left, _⟩) ← read position.isBlock (position = .blockEntry) tokens
  return (node, ⟨left, by omega⟩)
termination_by (tokens.length, 1)

/-- Reads the items of a block sequence. -/
def blockItems (tokens : List Token) : Parse (List Node) tokens :=
  match tokens with
  | .blockEnd :: rest => .ok ([], ⟨rest, by simp⟩)
  | .entry :: rest => do
    let (item, ⟨left, _⟩) ← optional .blockItem rest
    let (items, ⟨left, _⟩) ← blockItems left
    return (item :: items, ⟨left, by simp; omega⟩)
  | _ => .error .entryExpected
termination_by (tokens.length, 0)

/-- Reads further items of a sequence without an indentation of its own. -/
def unindentedItems (tokens : List Token) : Parse (List Node) tokens :=
  match tokens with
  | .entry :: rest => do
    let (item, ⟨left, _⟩) ← optional .unindentedItem rest
    let (items, ⟨left, _⟩) ← unindentedItems left
    return (item :: items, ⟨left, by simp; omega⟩)
  | tokens => .ok ([], ⟨tokens, Nat.le_refl _⟩)
termination_by (tokens.length, 0)

/-- Reads a value behind its mark; without the mark it is absent. -/
def valueOf (position : Position) (tokens : List Token) : Parse Node tokens :=
  match tokens with
  | .value :: rest => do
    let (value, ⟨left, _⟩) ← optional position rest
    return (value, ⟨left, by simp; omega⟩)
  | tokens => .ok (absent, ⟨tokens, Nat.le_refl _⟩)
termination_by (tokens.length, 0)

/-- Reads the entries of a block mapping. -/
def blockEntries (tokens : List Token) : Parse (List (Node × Node)) tokens :=
  match tokens with
  | .blockEnd :: rest => .ok ([], ⟨rest, by simp⟩)
  | .key :: rest => do
    let (key, ⟨left, _⟩) ← optional .blockEntry rest
    let (value, ⟨left, _⟩) ← valueOf .blockEntry left
    let (entries, ⟨left, _⟩) ← blockEntries left
    return ((key, value) :: entries, ⟨left, by simp; omega⟩)
  | _ => .error .keyExpected
termination_by (tokens.length, 0)

/-- Reads an item of a flow sequence and those behind it, or the end of the sequence. An item with a
key is a mapping of its own. -/
def flowItems (tokens : List Token) : Parse (List Node) tokens :=
  match tokens with
  | .flowSequenceEnd :: rest => .ok ([], ⟨rest, by simp⟩)
  | .key :: rest => do
    let (key, ⟨left, _⟩) ← pairKey rest
    let (value, ⟨left, _⟩) ← valueOf .flowItemValue left
    let (items, ⟨left, _⟩) ← flowItemsBehind left
    return (.mapping [(key, value)] :: items, ⟨left, by simp; omega⟩)
  | tokens => do
    let (item, ⟨left, _⟩) ← read false false tokens
    let (items, ⟨left, _⟩) ← flowItemsBehind left
    return (item :: items, ⟨left, by omega⟩)
termination_by (tokens.length, 1)

/-- Reads the key of an item of a flow sequence. An absent key takes the token behind it along. -/
def pairKey (tokens : List Token) : Except SyntaxError (Node × Less tokens) :=
  match tokens with
  | .value :: rest | .comma :: rest | .flowSequenceEnd :: rest => .ok (absent, ⟨rest, by simp⟩)
  | tokens => read false false tokens
termination_by (tokens.length, 1)

/-- Reads what is behind an item of a flow sequence. -/
def flowItemsBehind (tokens : List Token) : Parse (List Node) tokens :=
  match tokens with
  | .flowSequenceEnd :: rest => .ok ([], ⟨rest, by simp⟩)
  | .comma :: rest => do
    let (items, ⟨left, _⟩) ← flowItems rest
    return (items, ⟨left, by simp; omega⟩)
  | _ => .error .commaOrBracketExpected
termination_by (tokens.length, 0)

/-- Reads an entry of a flow mapping and those behind it, or the end of the mapping. A node without
a key mark is a key without a value. -/
def flowEntries (tokens : List Token) : Parse (List (Node × Node)) tokens :=
  match tokens with
  | .flowMappingEnd :: rest => .ok ([], ⟨rest, by simp⟩)
  | .key :: rest => do
    let (key, ⟨left, _⟩) ← optional .flowKey rest
    let (value, ⟨left, _⟩) ← valueOf .flowValue left
    let (entries, ⟨left, _⟩) ← flowEntriesBehind left
    return ((key, value) :: entries, ⟨left, by simp; omega⟩)
  | tokens => do
    let (key, ⟨left, _⟩) ← read false false tokens
    let (entries, ⟨left, _⟩) ← flowEntriesBehind left
    return ((key, absent) :: entries, ⟨left, by omega⟩)
termination_by (tokens.length, 1)

/-- Reads what is behind an entry of a flow mapping. -/
def flowEntriesBehind (tokens : List Token) : Parse (List (Node × Node)) tokens :=
  match tokens with
  | .flowMappingEnd :: rest => .ok ([], ⟨rest, by simp⟩)
  | .comma :: rest => do
    let (entries, ⟨left, _⟩) ← flowEntries rest
    return (entries, ⟨left, by simp; omega⟩)
  | _ => .error .commaOrBraceExpected
termination_by (tokens.length, 0)

end

/-- Reads the node of a document, which may be absent behind its start. -/
def ofDocument (tokens : List Token) : Except SyntaxError (Node × Left tokens) :=
  match tokens with
  | [] => .ok (absent, ⟨[], Nat.le_refl _⟩)
  | .documentStart :: rest =>
    match rest with
    | [] => .ok (absent, ⟨[], by simp⟩)
    | .documentStart :: left => .ok (absent, ⟨.documentStart :: left, by simp⟩)
    | .documentEnd :: left => .ok (absent, ⟨.documentEnd :: left, by simp⟩)
    | rest => do
      let (node, ⟨left, _⟩) ← read true false rest
      return (node, ⟨left, by simp; omega⟩)
  | tokens => do
    let (node, ⟨left, _⟩) ← read true false tokens
    return (node, ⟨left, by omega⟩)

/-- The node of a text with at most one document. -/
def parse (text : String) : Except SyntaxError Node := do
  let (node, left) ← ofDocument (← Token.scan text)
  if !(left.val.dropWhile (· = .documentEnd)).isEmpty then throw .severalDocuments
  return node

end Node

end ArtifactRegistry.Yaml
