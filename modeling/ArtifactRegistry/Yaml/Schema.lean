import ArtifactRegistry.Yaml.Node
import ArtifactRegistry.Yaml.Value

/-! # The core schema

What plain scalars mean: the words for null and the truth values, integers in four bases, and
floating-point numbers. Everything else is text, and so is every quoted scalar. Digits behind a
leading zero are text as well.
-/

namespace ArtifactRegistry.Yaml

namespace Schema

def nulls : List String := ["", "~", "null", "Null", "NULL"]
def truths : List String := ["true", "True", "TRUE"]
def falsehoods : List String := ["false", "False", "FALSE"]
def infinities : List String := [".inf", ".Inf", ".INF"]
def notNumbers : List String := [".nan", ".NaN", ".NAN"]

/-- The value of a digit in bases up to sixteen. -/
def digit? (base : Nat) (c : Char) : Option Nat :=
  if 128 ≤ c.toNat then none
  else (Bytes.hexDigit? (UInt8.ofNat c.toNat)).filter (· < base)

/-- The number that digits stand for. -/
def natural? (base : Nat) (digits : List Char) : Option Nat :=
  if digits.isEmpty then none
  else digits.foldlM (fun value c => (digit? base c).map (value * base + ·)) 0

def isDigit (c : Char) : Bool := (digit? 10 c).isSome

/-- Whether a numeral consists of digits with a useless zero in front. -/
def hasLeadingZero (digits : List Char) : Bool :=
  1 < digits.length && digits.head? = some '0' && digits.all isDigit

/-- A number without a sign, in the base that its start names. -/
def magnitude? : List Char → Option Nat
  | '0' :: 'x' :: digits => natural? 16 digits
  | '0' :: 'o' :: digits => natural? 8 digits
  | '0' :: 'b' :: digits => natural? 2 digits
  | digits => if hasLeadingZero digits then none else natural? 10 digits

/-- An integer of at most 128 bits. -/
def integer? : List Char → Option Int
  | '-' :: digits => ((magnitude? digits).filter (· ≤ 0x80000000000000000000000000000000)).map fun n => -(n : Int)
  | '+' :: digits => ((magnitude? digits).filter (· ≤ 0xffffffffffffffffffffffffffffffff)).map Int.ofNat
  | digits => ((magnitude? digits).filter (· ≤ 0xffffffffffffffffffffffffffffffff)).map Int.ofNat

/-- The number `coefficient * 10 ^ exponent`, unless it is too large. -/
def finite? (coefficient : Nat) (exponent : Int) : Option Float :=
  let size : Int := (Decimal.digits coefficient).length + exponent
  if coefficient = 0 ∨ size < -400 then some 0
  else if 400 < size then none
  else
    let value := Float.ofScientific coefficient (exponent < 0) exponent.natAbs
    if value.isFinite then some value else none

/-- The exponent at the end of a numeral; without one it is zero. -/
def exponent? : List Char → Option Int
  | [] => some 0
  | mark :: rest =>
    if mark ≠ 'e' ∧ mark ≠ 'E' then none
    else match rest with
      | '-' :: digits => (natural? 10 digits).map fun n => -(n : Int)
      | '+' :: digits => (natural? 10 digits).map Int.ofNat
      | digits => (natural? 10 digits).map Int.ofNat

/-- A decimal without a sign: digits with at most one point among them, and an exponent. -/
def decimal? (text : List Char) : Option Float := do
  let whole := text.takeWhile isDigit
  let rest := text.dropWhile isDigit
  let (fraction, rest) := match rest with
    | '.' :: behind => (behind.takeWhile isDigit, behind.dropWhile isDigit)
    | rest => ([], rest)
  let coefficient ← natural? 10 (whole ++ fraction)
  let exponent ← exponent? rest
  finite? coefficient (exponent - fraction.length)

/-- A floating-point number. -/
def float? (text : List Char) : Option Float :=
  if notNumbers.contains (String.ofList text) then some (0 / 0)
  else match text with
    | '-' :: digits => (unsigned? digits).map fun value => -value
    | '+' :: digits => unsigned? digits
    | digits => unsigned? digits
where
  unsigned? (digits : List Char) : Option Float :=
    if infinities.contains (String.ofList digits) then some (1 / 0)
    else if hasLeadingZero digits then none
    else decimal? digits

end Schema

open Schema

/-- The value of a plain scalar. -/
def Value.ofPlain (text : String) : Value :=
  if nulls.contains text then .null
  else if truths.contains text then .boolean true
  else if falsehoods.contains text then .boolean false
  else match integer? text.toList, float? text.toList with
    | some value, _ => .integer value
    | none, some value => .float value
    | none, none => .string text

def Value.ofScalar (text : String) (isPlain : Bool) : Value :=
  if isPlain then .ofPlain text else .string text

/-- Collections are nested at most this deep. -/
def nestingLimit : Nat := 128

mutual

/-- The value of a node, with at most so many levels of collections. Keys are unique, and integers
fit into 64 bits. -/
def Value.ofNode : Nat → Node → Except ShapeError Value
  | _, .scalar text isPlain =>
    match Value.ofScalar text isPlain with
    | .integer value =>
      if fitsWord value then .ok (.integer value)
      else (Value.integer value).refuse "any YAML value"
    | value => .ok value
  | 0, _ => .error ⟨[], .tooDeep⟩
  | depth + 1, .sequence items => (itemValues depth 0 items).map .sequence
  | depth + 1, .mapping entries => (entryValues depth [] entries).map .mapping

/-- The values of the items of a sequence from a position on. -/
def itemValues (depth position : Nat) : List Node → Except ShapeError (List Value)
  | [] => .ok []
  | item :: rest => do
    let value ← (Value.ofNode depth item).mapError (ShapeError.within (.index position))
    let others ← itemValues depth (position + 1) rest
    return value :: others

/-- The values of the entries of a mapping behind those that were read. -/
def entryValues (depth : Nat) (read : List (Value × Value)) :
    List (Node × Node) → Except ShapeError (List (Value × Value))
  | [] => .ok read
  | (keyNode, node) :: rest => do
    let key ← Value.ofNode depth keyNode
    if read.any fun entry => entry.1.same key then throw ⟨[], .duplicateKey key.describeKey⟩
    let step := match keyNode with
      | .scalar text _ => Step.key text
      | _ => .unnamed
    let value ← (Value.ofNode depth node).mapError (ShapeError.within step)
    entryValues depth (read ++ [(key, value)]) rest

end

/-- Why a text does not hold what was expected. -/
inductive ReadError where
  | malformed (reason : SyntaxError)
  | shape (reason : ShapeError)
deriving DecidableEq, Repr

def ReadError.message : ReadError → String
  | malformed reason => reason.message
  | shape reason => reason.message

/-- The value that a text holds. -/
def Value.parse (text : String) : Except ReadError Value := do
  let node ← (Node.parse text).mapError .malformed
  (Value.ofNode nestingLimit node).mapError .shape

end ArtifactRegistry.Yaml
