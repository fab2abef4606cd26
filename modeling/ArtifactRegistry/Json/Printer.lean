import ArtifactRegistry.Json.Value

/-! # Writing JSON

Values are written in one of two layouts: compact, or with every item and member on a line of its
own. Strings escape quotes, backslashes and control characters and nothing else.
-/

namespace ArtifactRegistry.Json

/-- How containers are laid out. -/
structure Layout where
  /-- What stands between brackets and items at a nesting level. -/
  line : Nat → Bytes
  /-- What stands between a key and its value. -/
  colon : Bytes

def Layout.compact : Layout := ⟨fun _ => [], [0x3a]⟩

/-- One line for each item, indented by a number of spaces a level. -/
def Layout.indented (spaces : Nat) : Layout :=
  ⟨fun level => 0x0a :: List.replicate (level * spaces) 0x20, [0x3a, 0x20]⟩

/-- The written form of one byte of a string. -/
def escapeByte (c : UInt8) : Bytes :=
  if c = quoteByte then [backslashByte, quoteByte]
  else if c = backslashByte then [backslashByte, backslashByte]
  else if 0x20 ≤ c then [c]
  else if c = 0x08 then [backslashByte, 0x62]
  else if c = 0x0c then [backslashByte, 0x66]
  else if c = 0x0a then [backslashByte, 0x6e]
  else if c = 0x0d then [backslashByte, 0x72]
  else if c = 0x09 then [backslashByte, 0x74]
  else [backslashByte, 0x75, 0x30, 0x30] ++
    [c / 16, c % 16].map fun digit => if digit < 10 then 0x30 + digit else 0x57 + digit

def writeText (text : String) : Bytes :=
  quoteByte :: (Bytes.ofText text).flatMap escapeByte ++ [quoteByte]

def Number.write : Number → Bytes
  | integer value => Decimal.ofInt value
  | float value => Bytes.ofText (Decimal.ofFloat jsonNumberLayout value)

mutual

/-- The written form of a value at a nesting level. -/
def Value.write (layout : Layout) (level : Nat) : Value → Bytes
  | .null => [0x6e, 0x75, 0x6c, 0x6c]
  | .boolean true => [0x74, 0x72, 0x75, 0x65]
  | .boolean false => [0x66, 0x61, 0x6c, 0x73, 0x65]
  | .number value => value.write
  | .string text => writeText text
  | .list [] => [0x5b, 0x5d]
  | .list (first :: rest) =>
    0x5b :: layout.line (level + 1) ++ Value.write layout (level + 1) first
      ++ writeItems layout (level + 1) rest ++ layout.line level ++ [0x5d]
  | .object [] => [0x7b, 0x7d]
  | .object ((key, first) :: rest) =>
    0x7b :: layout.line (level + 1) ++ writeText key ++ layout.colon
      ++ Value.write layout (level + 1) first
      ++ writeMembers layout (level + 1) rest ++ layout.line level ++ [0x7d]

/-- The items behind the first, each with a comma before it. -/
def writeItems (layout : Layout) (level : Nat) : List Value → Bytes
  | [] => []
  | item :: rest =>
    0x2c :: layout.line level ++ Value.write layout level item ++ writeItems layout level rest

def writeMembers (layout : Layout) (level : Nat) : List (String × Value) → Bytes
  | [] => []
  | (key, value) :: rest =>
    0x2c :: layout.line level ++ writeText key ++ layout.colon
      ++ Value.write layout level value ++ writeMembers layout level rest

end

namespace Value

/-- The value on one line. -/
def compact (value : Value) : Bytes := value.write .compact 0

/-- The value with three spaces a level, the layout whose bytes are hashed. -/
def canonical (value : Value) : Bytes := value.write (.indented 3) 0

/-- The value with two spaces a level, the layout of listings. -/
def listing (value : Value) : Bytes := value.write (.indented 2) 0

end Value

end ArtifactRegistry.Json
