import ArtifactRegistry.Decimal.Shortest
import ArtifactRegistry.Text.Quoted

/-! # YAML values and what is wrong with them

Values of the core schema. A value that does not have the expected shape is refused with the place
where the fault is, the value found and the shape expected.
-/

namespace ArtifactRegistry.Yaml

inductive Value where
  | null
  | boolean (value : Bool)
  | integer (value : Int)
  | float (value : Float)
  | string (value : String)
  | sequence (items : List Value)
  | mapping (entries : List (Value × Value))
deriving Inhabited

/-- Numbers in messages are written without an exponent, whatever their size. -/
def numberLayout : Decimal.Layout := ⟨-400, 400⟩

def floatText (value : Float) : String :=
  if value.isNaN then "NaN.0"
  else if value.isInf then if value < 0 then "-inf.0" else "inf.0"
  else Decimal.ofFloat numberLayout value

/-- Whether a number fits into 64 bits, signed when it is negative. -/
def fitsWord (value : Int) : Bool := -0x8000000000000000 ≤ value && value ≤ 0xffffffffffffffff

namespace Value

/-- How messages call a value. -/
def describe : Value → String
  | null => "unit value"
  | boolean value => s!"boolean `{value}`"
  | integer value =>
    s!"integer `{value}`"
      ++ if fitsWord value then "" else if value < 0 then " as i128" else " as u128"
  | float value => s!"floating point `{floatText value}`"
  | string value => s!"string {Text.quote value}"
  | sequence _ => "sequence"
  | mapping _ => "map"

mutual

/-- Whether two values are equal as keys. There is one value that is no number. -/
def same : Value → Value → Bool
  | null, null => true
  | boolean a, boolean b => a == b
  | integer a, integer b => a == b
  | float a, float b => a == b || (a.isNaN && b.isNaN)
  | string a, string b => a == b
  | sequence a, sequence b => sameItems a b
  | mapping a, mapping b => a.length == b.length && holdsAll a b
  | _, _ => false

def sameItems : List Value → List Value → Bool
  | [], [] => true
  | a :: as, b :: bs => same a b && sameItems as bs
  | _, _ => false

/-- Whether the second mapping has the entries of the first. -/
def holdsAll : List (Value × Value) → List (Value × Value) → Bool
  | [], _ => true
  | (key, value) :: rest, entries =>
    (entries.any fun entry => same key entry.1 && same value entry.2) && holdsAll rest entries

end

end Value

/-- What is wrong with a value. -/
inductive Fault where
  | wrongType (found expected : String)
  | missingField (name : String)
  | duplicateField (name : String)
  /-- Two equal keys, in the words of messages. -/
  | duplicateKey (key : String)
  | unknownVariant (name : String) (expected : List String)
  | tooDeep
deriving DecidableEq, Repr

/-- How messages call a key that is there twice. -/
def Value.describeKey : Value → String
  | null => "with null key"
  | boolean value => s!"with key `{value}`"
  | integer value => s!"with key {value}"
  | float value => s!"with key {floatText value}"
  | string value => s!"with key {Text.quote value}"
  | sequence _ | mapping _ => "in YAML map"

def Fault.message : Fault → String
  | wrongType found expected => s!"invalid type: {found}, expected {expected}"
  | missingField name => s!"missing field `{name}`"
  | duplicateField name => s!"duplicate field `{name}`"
  | duplicateKey key => s!"duplicate entry {key}"
  | unknownVariant name expected =>
    s!"unknown variant `{name}`, expected "
      ++ String.intercalate " or " (expected.map fun variant => s!"`{variant}`")
  | tooDeep => "recursion limit exceeded"

/-- A step from a value to one inside of it. -/
inductive Step where
  | key (name : String)
  | index (position : Nat)
  /-- The value of a key that is no scalar. -/
  | unnamed
deriving DecidableEq, Repr

/-- The text of a path; the path of no steps is a single dot. -/
def Step.pathText (path : List Step) : String :=
  path.foldl (fun text step =>
    let start := if text = "." then "" else text ++ "."
    match step with
    | .key name => start ++ name
    | .index position => s!"{text}[{position}]"
    | .unnamed => start ++ "?") "."

/-- A fault and the steps that lead to it. -/
structure ShapeError where
  path : List Step
  fault : Fault
deriving DecidableEq, Repr

namespace ShapeError

/-- The same fault, seen from one step further out. -/
def within (step : Step) (error : ShapeError) : ShapeError :=
  if error.fault = .tooDeep then error else { error with path := step :: error.path }

def message (error : ShapeError) : String :=
  let path := Step.pathText error.path
  (if path = "." then "" else path ++ ": ") ++ error.fault.message

end ShapeError

namespace Value

/-- Fails because a value is not what was expected. -/
def refuse {α : Type} (value : Value) (expected : String) : Except ShapeError α :=
  .error ⟨[], .wrongType value.describe expected⟩

def text (expected : String) : Value → Except ShapeError String
  | string text => .ok text
  | value => value.refuse expected

/-- A sequence of texts; null is an empty one. -/
def texts : Value → Except ShapeError (List String)
  | sequence items => items.mapM (text "a string")
  | null => .ok []
  | value => value.refuse "a sequence"

/-- The texts in one field of a mapping, whose keys must all be texts. Without the field there are
none, and other fields are ignored. -/
def fieldTexts (name : String) : List (Value × Value) → Except ShapeError (List String)
  | [] => .ok []
  | (key, value) :: rest => do
    let isField := (← key.text "field identifier") = name
    let found ← if isField then value.texts else pure []
    let others ← fieldTexts name rest
    return found ++ others

end Value

end ArtifactRegistry.Yaml
