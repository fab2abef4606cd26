import ArtifactRegistry.Json.Node
import ArtifactRegistry.SortedMap

/-! # Reading typed contents

Readers walk a node from left to right and fail with the first error. A value nobody asked for is
skipped: then only its grammar matters, nesting is unlimited, and strings may hold surrogates and
bytes that are not UTF-8. Values that are read nest less than `nestingLimit` deep.
-/

namespace ArtifactRegistry.Json

/-- The error of a missing value, for a value that is read. -/
def BadValue.error : BadValue → ReadError
  | endOfInput | literalCutShort | numberCutShort => .valueCutShort
  | unexpected => .expectedValue
  | brokenLiteral => .expectedLiteral
  | brokenNumber => .invalidNumber
  | noColon => .expectedColon
  | endBeforeColon => .objectCutShort

/-- The error of a missing value, for a value that is skipped. -/
def BadValue.skipError : BadValue → ReadError
  | numberCutShort => .invalidNumber
  | reason => reason.error

def ListEnd.read : ListEnd → Read Unit
  | closed => .ok ()
  | endOfInput => .error .listCutShort
  | noSeparator => .error .expectedListEnd
  | trailingComma => .error .trailingComma

def ListEnd.skip : ListEnd → Read Unit
  | trailingComma => .error .expectedValue
  | stop => stop.read

def ObjectEnd.read : ObjectEnd → Read Unit
  | closed => .ok ()
  | endOfInput => .error .objectCutShort
  | noSeparator => .error .expectedObjectEnd
  | noKey => .error .keyMustBeString
  | trailingComma => .error .trailingComma
  | endAfterComma => .error .valueCutShort

def ObjectEnd.skip : ObjectEnd → Read Unit
  | trailingComma => .error .keyMustBeString
  | endAfterComma => .error .objectCutShort
  | stop => stop.read

def StringEnd.read : StringEnd → Read Unit
  | closed => .ok ()
  | endOfInput => .error .stringCutShort
  | controlCharacter => .error .controlCharacter
  | unknownEscape | badHexDigits => .error .invalidEscape

namespace StringToken

def isHighSurrogate (unit : Nat) : Bool := 0xd800 ≤ unit && unit < 0xdc00
def isLowSurrogate (unit : Nat) : Bool := 0xdc00 ≤ unit && unit < 0xe000

/-- The UTF-8 bytes of a code point. -/
def encode (code : Nat) : Bytes := String.utf8EncodeChar (Char.ofNat code)

/-- The error behind a high surrogate that no escape follows. -/
def StringEnd.afterHighSurrogate : StringEnd → ReadError
  | .endOfInput => .stringCutShort
  | .badHexDigits => .invalidEscape
  | .closed | .controlCharacter | .unknownEscape => .escapeCutShort

/-- The bytes that the pieces stand for; surrogates must come in pairs. -/
def decode (stop : StringEnd) : List StringPiece → Read Bytes
  | [] => stop.read.map fun _ => []
  | .byte value :: rest => (decode stop rest).map (value :: ·)
  | .short value :: rest => (decode stop rest).map (value :: ·)
  | .unit value :: rest =>
    if isLowSurrogate value then .error .loneSurrogate
    else if isHighSurrogate value then
      match rest with
      | [] => .error (StringEnd.afterHighSurrogate stop)
      | .unit low :: rest =>
        if isLowSurrogate low then
          (decode stop rest).map
            (encode (0x10000 + (value - 0xd800) * 0x400 + (low - 0xdc00)) ++ ·)
        else .error .loneSurrogate
      | _ => .error .escapeCutShort
    else (decode stop rest).map (encode value ++ ·)

/-- The text of a string literal. -/
def text (token : StringToken) : Read String := do
  let bytes ← decode token.stop token.pieces
  match Bytes.toText? bytes with
  | some text => return text
  | none => throw .invalidUnicode

end StringToken

/-- Values that are read may not nest this deep. -/
def nestingLimit : Nat := 128

/-- Enters one more level. -/
def enter (depth : Nat) : Read Nat :=
  if depth + 1 < nestingLimit then .ok (depth + 1) else .error .tooDeep

mutual

/-- Checks the grammar of a value and drops it. -/
def Node.skip : Node → Read Unit
  | .null | .boolean _ | .number _ => .ok ()
  | .string token => token.stop.read
  | .list items stop => do skipItems items; stop.skip
  | .object members stop => do skipMembers members; stop.skip
  | .bad reason => .error reason.skipError

def skipItems : List Node → Read Unit
  | [] => .ok ()
  | item :: rest => do item.skip; skipItems rest

def skipMembers : List (StringToken × Node) → Read Unit
  | [] => .ok ()
  | (key, value) :: rest => do key.stop.read; value.skip; skipMembers rest

end

namespace Node

/-- What a node holds, for saying that something else was expected. -/
def found : Node → Read Found
  | .null => .ok .null
  | .boolean value => .ok (.boolean value)
  | .number numeral => numeral.value.map Number.found
  | .string token => token.text.map .text
  | .list .. => .ok .sequence
  | .object .. => .ok .map
  | .bad reason => .error reason.error

/-- Fails because a node is not what was expected. -/
def refuse {α : Type} (node : Node) (expected : String) : Read α :=
  node.found.bind fun found => .error (.wrongType found expected)

end Node

/-- A reader gets the number of levels that are already open. -/
abbrev Reader (α : Type) := Nat → Node → Read α

namespace Reader

def text : Reader String
  | _, .string token => token.text
  | _, node => node.refuse "a string"

/-- An integer between two bounds. -/
def integer (low high : Int) (expected : String) : Reader Int
  | _, .number numeral => do
    match ← numeral.value with
    | .integer value =>
      if low ≤ value ∧ value ≤ high then return value
      else throw (.outOfRange value expected)
    | .float value => throw (.wrongType (.float value) expected)
  | _, node => node.refuse expected

/-- Null for nothing, or a value. -/
def optional {α : Type} (value : Reader α) : Reader (Option α)
  | _, .null => .ok none
  | depth, node => (value depth node).map some

/-- Reads the items from left to right. -/
def items {α : Type} (item : Reader α) (depth : Nat) : List Node → Read (List α)
  | [] => .ok []
  | node :: rest => do
    let first ← item depth node
    let others ← items item depth rest
    return first :: others

def list {α : Type} (item : Reader α) : Reader (List α)
  | depth, .list nodes stop => do
    let depth ← enter depth
    let values ← items item depth nodes
    stop.read
    return values
  | _, node => node.refuse "a sequence"

/-- Reads the members from left to right; the last of equal keys stays. -/
def entries {α : Type} (value : Reader α) (depth : Nat) (map : SortedMap α) :
    List (StringToken × Node) → Read (SortedMap α)
  | [] => .ok map
  | (key, node) :: rest => do
    let key ← key.text
    let value' ← value depth node
    entries value depth (map.insert key value') rest

def map {α : Type} (value : Reader α) : Reader (SortedMap α)
  | depth, .object members stop => do
    let depth ← enter depth
    let map ← entries value depth ∅ members
    stop.read
    return map
  | _, node => node.refuse "a map"

/-- Reads a whole text: one value, and only blanks behind it. -/
def run {α : Type} (reader : Reader α) (text : Bytes) : Read α := do
  let document := Document.ofBytes text
  let value ← reader 0 document.root
  if document.trailing then throw .trailingCharacters else return value

end Reader

end ArtifactRegistry.Json
