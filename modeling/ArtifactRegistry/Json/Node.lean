import ArtifactRegistry.Json.Number

/-! # Documents before interpretation

A `Node` is what a text says before it is known what the text is for: strings keep their escapes,
numbers their digits, objects all their members in order. Where a text breaks off or goes wrong, the
node on that spot records how, so that a reader that walks the tree from left to right meets the
first error of the text first. `Document.ofTokens` builds the tree by running a machine over the
tokens; the machine keeps a stack of the places that wait for a value.
-/

namespace ArtifactRegistry.Json

/-- What stands behind the last item of a list. -/
inductive ListEnd where
  | closed
  | endOfInput
  | noSeparator
  | trailingComma
deriving DecidableEq, Repr

/-- What stands behind the last member of an object. -/
inductive ObjectEnd where
  | closed
  | endOfInput
  | noSeparator
  | noKey
  | trailingComma
  | endAfterComma
deriving DecidableEq, Repr

inductive Node where
  | null
  | boolean (value : Bool)
  | number (numeral : Numeral)
  | string (token : StringToken)
  | list (items : List Node) (stop : ListEnd)
  | object (members : List (StringToken × Node)) (stop : ObjectEnd)
  | bad (reason : BadValue)

/-- A tree and whether anything but blanks follows it. -/
structure Document where
  root : Node
  trailing : Bool

namespace Document

/-- A place that waits for a value, with what was read of its container, latest first. -/
inductive Place where
  | item (before : List Node)
  | member (before : List (StringToken × Node)) (key : StringToken)

/-- What has been read, by what may come next. -/
inductive State where
  /-- A value for the innermost place. -/
  | value (places : List Place)
  /-- An item or the end of an empty list. -/
  | firstItem (places : List Place)
  /-- A comma or the end of the list. -/
  | afterItem (items : List Node) (places : List Place)
  /-- An item, behind a comma. -/
  | nextItem (items : List Node) (places : List Place)
  /-- A key or the end of an empty object. -/
  | firstKey (places : List Place)
  /-- The colon behind a key. -/
  | colon (members : List (StringToken × Node)) (key : StringToken) (places : List Place)
  /-- A comma or the end of the object. -/
  | afterMember (members : List (StringToken × Node)) (places : List Place)
  /-- A key, behind a comma. -/
  | nextKey (members : List (StringToken × Node)) (places : List Place)
  /-- Nothing. -/
  | complete (root : Node)
  /-- Anything: the outcome is settled. -/
  | settled (document : Document)

/-- Puts a complete node into the innermost place. -/
def fill (node : Node) : List Place → State
  | [] => .complete node
  | .item before :: places => .afterItem (node :: before) places
  | .member before key :: places => .afterMember ((key, node) :: before) places

/-- The tree that ends with `node`, where reading stopped. -/
def breakOff (node : Node) : List Place → Document
  | [] => ⟨node, false⟩
  | .item before :: places => breakOff (.list (node :: before).reverse .endOfInput) places
  | .member before key :: places =>
    breakOff (.object ((key, node) :: before).reverse .endOfInput) places

/-- Reads a token where a value is due. -/
def startValue (places : List Place) : Token → State
  | .null => fill .null places
  | .boolean value => fill (.boolean value) places
  | .number numeral => fill (.number numeral) places
  | .string token => fill (.string token) places
  | .listOpen => .firstItem places
  | .objectOpen => .firstKey places
  | .bad reason => .settled (breakOff (.bad reason) places)
  | .listClose | .objectClose | .comma | .colon => .settled (breakOff (.bad .unexpected) places)

def step : State → Token → State
  | .value places, token => startValue places token
  | .firstItem places, .listClose => fill (.list [] .closed) places
  | .firstItem places, token => startValue (.item [] :: places) token
  | .afterItem items places, .comma => .nextItem items places
  | .afterItem items places, .listClose => fill (.list items.reverse .closed) places
  | .afterItem items places, _ => .settled (breakOff (.list items.reverse .noSeparator) places)
  | .nextItem items places, .listClose =>
    .settled (breakOff (.list items.reverse .trailingComma) places)
  | .nextItem items places, token => startValue (.item items :: places) token
  | .firstKey places, .objectClose => fill (.object [] .closed) places
  | .firstKey places, .string key => .colon [] key places
  | .firstKey places, _ => .settled (breakOff (.object [] .noKey) places)
  | .colon members key places, .colon => .value (.member members key :: places)
  | .colon members key places, _ =>
    .settled (breakOff (.bad .noColon) (.member members key :: places))
  | .afterMember members places, .comma => .nextKey members places
  | .afterMember members places, .objectClose => fill (.object members.reverse .closed) places
  | .afterMember members places, _ =>
    .settled (breakOff (.object members.reverse .noSeparator) places)
  | .nextKey members places, .objectClose =>
    .settled (breakOff (.object members.reverse .trailingComma) places)
  | .nextKey members places, .string key => .colon members key places
  | .nextKey members places, _ => .settled (breakOff (.object members.reverse .noKey) places)
  | .complete root, _ => .settled ⟨root, true⟩
  | .settled document, _ => .settled document

/-- The outcome when the text ends. -/
def finish : State → Document
  | .value places => breakOff (.bad .endOfInput) places
  | .firstItem places => breakOff (.list [] .endOfInput) places
  | .afterItem items places => breakOff (.list items.reverse .endOfInput) places
  | .nextItem items places => breakOff (.bad .endOfInput) (.item items :: places)
  | .firstKey places => breakOff (.object [] .endOfInput) places
  | .colon members key places => breakOff (.bad .endBeforeColon) (.member members key :: places)
  | .afterMember members places => breakOff (.object members.reverse .endOfInput) places
  | .nextKey members places => breakOff (.object members.reverse .endAfterComma) places
  | .complete root => ⟨root, false⟩
  | .settled document => document

/-- Builds the tree of a token sequence. -/
def ofTokens (tokens : List Token) : Document := finish (tokens.foldl step (.value []))

/-- Builds the tree of a text. -/
def ofBytes (text : Bytes) : Document := ofTokens (Token.scan text)

end Document

end ArtifactRegistry.Json
