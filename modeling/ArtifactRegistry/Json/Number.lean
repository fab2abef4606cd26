import ArtifactRegistry.Json.Token

/-! # Numbers of a JSON text

A number without point and exponent is an integer as long as its magnitude fits 64 bits, or 63 when
negative. Every other number, and negative zero, is floating point. A floating-point number is read
in two roundings: the leading digits that fit 64 bits make a coefficient, and the coefficient is
multiplied or divided by a power of ten. The number must be finite.
-/

namespace ArtifactRegistry.Json

inductive Number where
  | integer (value : Int)
  | float (value : Float)

def Number.found : Number → Found
  | integer value => .integer value
  | float value => .float value

namespace Numeral

/-- The largest coefficient. -/
def coefficientLimit : Nat := 0xffffffffffffffff

/-- Appends digits to a coefficient until one does not fit; returns how many were left over. -/
def extend (coefficient : Nat) : List Nat → Nat × Nat
  | [] => (coefficient, 0)
  | digit :: rest =>
    if coefficient * 10 + digit ≤ coefficientLimit then extend (coefficient * 10 + digit) rest
    else (coefficient, rest.length + 1)

/-- Divides by a power of ten, at most 308 places at a time, unless nothing is left. -/
def scaleDown (x : Float) (places : Nat) : Float :=
  if places ≤ 308 then x / Float.ofScientific 1 false places
  else if x == 0 then x
  else scaleDown (x / Float.ofScientific 1 false 308) (places - 308)
termination_by places

/-- `coefficient * 10 ^ exponent`, when it is finite. -/
def scale (coefficient : Nat) (exponent : Int) : Read Float :=
  let x := coefficient.toUInt64.toFloat
  if exponent < 0 then .ok (scaleDown x exponent.natAbs)
  else if exponent ≤ 308 then
    let y := x * Float.ofScientific 1 false exponent.toNat
    if y.isInf then .error .numberOutOfRange else .ok y
  else if coefficient = 0 then .ok x
  else .error .numberOutOfRange

/-- Exponents beyond this one are not added up. -/
def exponentLimit : Nat := 0x7fffffff

/-- The magnitude of a numeral read as floating point. -/
def magnitude (n : Numeral) : Read Float :=
  let (whole, leftOver) := extend 0 n.whole
  let (coefficient, dropped) := extend whole n.fraction
  let shift : Int := leftOver - (n.fraction.length - dropped : Nat)
  match n.exponent with
  | none => scale coefficient shift
  | some (negative, digits) =>
    let exponent := Decimal.ofDigits digits
    if exponentLimit < exponent then
      if coefficient ≠ 0 ∧ ¬negative then .error .numberOutOfRange else .ok 0
    else scale coefficient (if negative then shift - exponent else shift + exponent)

/-- The value of a numeral. -/
def value (n : Numeral) : Read Number :=
  let whole := Decimal.ofDigits n.whole
  let isPlain := n.fraction.isEmpty && n.exponent.isNone
  if isPlain && !n.negative && whole ≤ coefficientLimit then .ok (.integer whole)
  else if isPlain && n.negative && 0 < whole && whole ≤ 0x8000000000000000 then .ok (.integer (-whole))
  else n.magnitude.map fun x => .float (if n.negative then -x else x)

end Numeral

end ArtifactRegistry.Json
