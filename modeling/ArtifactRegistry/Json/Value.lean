import ArtifactRegistry.Json.Reader

/-! # JSON values

A value keeps the members of its objects as a list. Values that were read have them in ascending key
order, each key once; values that are about to be written have them in the order of the output.
-/

namespace ArtifactRegistry.Json

inductive Value where
  | null
  | boolean (value : Bool)
  | number (value : Number)
  | string (value : String)
  | list (items : List Value)
  | object (members : List (String × Value))

namespace Value

def ofInt (value : Int) : Value := number (.integer value)

def ofTexts (texts : List String) : Value := list (texts.map string)

def ofMap (map : SortedMap String) : Value :=
  object (map.entries.map fun entry => (entry.1, string entry.2))

end Value

mutual

/-- The value of a node; members are sorted and the last of equal keys stays. -/
def readValue : Nat → Node → Read Value
  | _, .null => .ok .null
  | _, .boolean value => .ok (.boolean value)
  | _, .number numeral => numeral.value.map .number
  | _, .string token => token.text.map .string
  | depth, .list items stop => do
    let depth ← enter depth
    let values ← readValues depth items
    stop.read
    return .list values
  | depth, .object members stop => do
    let depth ← enter depth
    let members ← readMembers depth members []
    stop.read
    return .object members
  | _, .bad reason => .error reason.error

def readValues (depth : Nat) : List Node → Read (List Value)
  | [] => .ok []
  | node :: rest => do
    let first ← readValue depth node
    let others ← readValues depth rest
    return first :: others

def readMembers (depth : Nat) :
    List (StringToken × Node) → List (String × Value) → Read (List (String × Value))
  | [], members => .ok members
  | (key, node) :: rest, members => do
    let key ← key.text
    let value ← readValue depth node
    readMembers depth rest (SortedMap.insertEntry key value members)

end

/-- Reads any value. -/
def Reader.value : Reader Value := readValue

/-- The value that a text holds. -/
def Value.parse (text : Bytes) : Read Value := Reader.value.run text

end ArtifactRegistry.Json
