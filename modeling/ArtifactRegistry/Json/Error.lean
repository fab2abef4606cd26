import ArtifactRegistry.Decimal.Shortest
import ArtifactRegistry.Text.Quoted

/-! # Why a document cannot be read

A reading error is one of three kinds: the text breaks the grammar, it ends too early, or it is well
formed but does not have the contents that were expected.
-/

namespace ArtifactRegistry

/-- Numbers are written plainly while the leading digit stands between the fifth place after the
point and the sixteenth before it. -/
def jsonNumberLayout : Decimal.Layout := ⟨-5, 16⟩

/-- A value that was found in place of the expected one. -/
inductive Found where
  | null
  | boolean (value : Bool)
  | integer (value : Int)
  | float (value : Float)
  | text (value : String)
  | sequence
  | map

def Found.describe : Found → String
  | null => "null"
  | boolean value => s!"boolean `{value}`"
  | integer value => s!"integer `{value}`"
  | float value => s!"floating point `{Decimal.ofFloat jsonNumberLayout value}`"
  | text value => s!"string {Text.quote value}"
  | sequence => "sequence"
  | map => "map"

/-- The first thing that is wrong with a document, in reading order. -/
inductive ReadError where
  | valueCutShort
  | stringCutShort
  | listCutShort
  | objectCutShort
  | expectedValue
  | expectedLiteral
  | expectedColon
  | expectedListEnd
  | expectedObjectEnd
  | keyMustBeString
  | trailingComma
  | trailingCharacters
  | invalidNumber
  | numberOutOfRange
  | invalidEscape
  | controlCharacter
  | loneSurrogate
  | escapeCutShort
  | invalidUnicode
  | tooDeep
  | wrongType (found : Found) (expected : String)
  | outOfRange (value : Int) (expected : String)
  | wrongLength (length : Nat) (expected : String)
  | missingField (name : String)
  | duplicateField (name : String)

/-- The three kinds of reading errors. -/
inductive ReadError.Category where
  | grammar
  | cutShort
  | contents
deriving DecidableEq, Repr

namespace ReadError

def category : ReadError → Category
  | valueCutShort | stringCutShort | listCutShort | objectCutShort => .cutShort
  | wrongType .. | outOfRange .. | wrongLength .. | missingField .. | duplicateField .. => .contents
  | _ => .grammar

def message : ReadError → String
  | valueCutShort => "EOF while parsing a value"
  | stringCutShort => "EOF while parsing a string"
  | listCutShort => "EOF while parsing a list"
  | objectCutShort => "EOF while parsing an object"
  | expectedValue => "expected value"
  | expectedLiteral => "expected ident"
  | expectedColon => "expected `:`"
  | expectedListEnd => "expected `,` or `]`"
  | expectedObjectEnd => "expected `,` or `\x7d`"
  | keyMustBeString => "key must be a string"
  | trailingComma => "trailing comma"
  | trailingCharacters => "trailing characters"
  | invalidNumber => "invalid number"
  | numberOutOfRange => "number out of range"
  | invalidEscape => "invalid escape"
  | controlCharacter => "control character (\\u0000-\\u001F) found while parsing a string"
  | loneSurrogate => "lone leading surrogate in hex escape"
  | escapeCutShort => "unexpected end of hex escape"
  | invalidUnicode => "invalid unicode code point"
  | tooDeep => "recursion limit exceeded"
  | wrongType found expected => s!"invalid type: {found.describe}, expected {expected}"
  | outOfRange value expected => s!"invalid value: integer `{value}`, expected {expected}"
  | wrongLength length expected => s!"invalid length {length}, expected {expected}"
  | missingField name => s!"missing field `{name}`"
  | duplicateField name => s!"duplicate field `{name}`"

end ReadError

/-- The outcome of reading. -/
abbrev Read := Except ReadError

end ArtifactRegistry
