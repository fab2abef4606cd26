import ArtifactRegistry.Decimal.Numeral

/-! # Shortest decimals of floating-point numbers

A finite binary64 number stands for the interval of reals that round to it. Its shortest decimal is
the one with the fewest digits in that interval; of two with as many digits the nearer is taken, and
at an exact tie the even one. All comparisons are between naturals, so nothing is rounded on the way.
-/

namespace ArtifactRegistry.Decimal

/-- The magnitude of a finite binary64 number, `mantissa * 2 ^ exponent`. -/
structure Binary where
  mantissa : Nat
  exponent : Int
  /-- Whether the gap to the next number below is half the gap to the next above. -/
  narrowBelow : Bool

/-- Reads the magnitude off the bits of a finite number. -/
def Binary.ofBits (bits : UInt64) : Binary :=
  let biased := (bits >>> 52 &&& 0x7ff).toNat
  let fraction := (bits &&& 0xfffffffffffff).toNat
  if biased = 0 then ⟨fraction, -1074, false⟩
  else ⟨0x10000000000000 + fraction, (biased : Int) - 1075, fraction = 0 && 1 < biased⟩

/-- A decimal `coefficient * 10 ^ exponent`. -/
structure Scaled where
  coefficient : Nat
  exponent : Int
deriving DecidableEq, Repr

/-- Compares `a * 10 ^ i` with `b * 2 ^ j`. -/
def compareScaled (a : Nat) (i : Int) (b : Nat) (j : Int) : Ordering :=
  compare (a * Nat.pow 10 i.toNat * Nat.pow 2 (-j).toNat)
    (b * Nat.pow 2 j.toNat * Nat.pow 10 (-i).toNat)

/-- Whether a decimal lies in the interval that rounds to the number. Both ends belong to the
interval exactly when the mantissa is even. -/
def Binary.covers (x : Binary) (d : Scaled) : Bool :=
  let low := if x.narrowBelow then 4 * x.mantissa - 1 else 4 * x.mantissa - 2
  let atLow := compareScaled d.coefficient d.exponent low (x.exponent - 2)
  let atHigh := compareScaled d.coefficient d.exponent (4 * x.mantissa + 2) (x.exponent - 2)
  let closed := x.mantissa % 2 = 0
  (atLow = .gt || (closed && atLow = .eq)) && (atHigh = .lt || (closed && atHigh = .eq))

/-- The number of digits before the point: the least `k` with `x < 10 ^ k`, searched from a bound
below it. -/
def Binary.magnitude (x : Binary) : Int :=
  let start : Int := (x.mantissa.log2 + x.exponent) * 30103 / 100000 - 1
  let steps := (List.range 6).find? fun (step : Nat) =>
    compareScaled 1 (start + step) x.mantissa x.exponent = .gt
  start + (steps.getD 0 : Nat)

/-- The neighbours of `x` among the multiples of `10 ^ exponent`. -/
def Binary.neighbours (x : Binary) (exponent : Int) : Scaled × Scaled :=
  let floor := x.mantissa * Nat.pow 2 x.exponent.toNat * Nat.pow 10 (-exponent).toNat
    / (Nat.pow 2 (-x.exponent).toNat * Nat.pow 10 exponent.toNat)
  (⟨floor, exponent⟩, ⟨floor + 1, exponent⟩)

/-- The neighbour that is nearer to `x`; at an exact tie the even one. -/
def Binary.nearer (x : Binary) (pair : Scaled × Scaled) : Scaled :=
  match compareScaled (pair.1.coefficient + pair.2.coefficient) pair.1.exponent
      (2 * x.mantissa) x.exponent with
  | .gt => pair.1
  | .lt => pair.2
  | .eq => if pair.1.coefficient % 2 = 0 then pair.1 else pair.2

/-- The best decimal of a positive number with a given number of digits, if one rounds back. -/
def Binary.withDigits? (x : Binary) (count : Nat) : Option Scaled :=
  let pair := x.neighbours (x.magnitude - count)
  match x.covers pair.1, x.covers pair.2 with
  | true, true => some (x.nearer pair)
  | true, false => some pair.1
  | false, true => some pair.2
  | false, false => none

/-- Moves trailing zeros of the coefficient into the exponent. -/
def Scaled.strip (d : Scaled) : Scaled :=
  let zeros := (digits d.coefficient).reverse.takeWhile (· = 0) |>.length
  if d.coefficient = 0 then d else ⟨d.coefficient / Nat.pow 10 zeros, d.exponent + zeros⟩

/-- The exact value of the number. -/
def Binary.exact (x : Binary) : Scaled :=
  if x.exponent < 0 then ⟨x.mantissa * Nat.pow 5 (-x.exponent).toNat, x.exponent⟩
  else ⟨x.mantissa * Nat.pow 2 x.exponent.toNat, 0⟩

/-- The shortest decimal of a number; seventeen digits are always enough. -/
def Binary.shortest (x : Binary) : Scaled :=
  if x.mantissa = 0 then ⟨0, 0⟩
  else (((List.range 17).findSome? fun n => x.withDigits? (n + 1)).getD x.exact).strip

/-- How a decimal is laid out. Numbers whose leading digit has an exponent from `plainFrom` up to
but without `plainBelow` are written with a point and no exponent. -/
structure Layout where
  plainFrom : Int
  plainBelow : Int

private def text (ds : List Nat) : List Char := ds.map fun d => Char.ofNat (48 + d)

/-- Lays out a decimal. A plain number always has a digit after the point. -/
def Scaled.layOut (layout : Layout) (d : Scaled) : List Char :=
  let ds := digits d.coefficient
  let point : Int := ds.length + d.exponent
  if d.coefficient = 0 then ['0', '.', '0']
  else if layout.plainFrom ≤ point - 1 ∧ point - 1 < layout.plainBelow then
    if point ≤ 0 then ['0', '.'] ++ List.replicate (-point).toNat '0' ++ text ds
    else if d.exponent < 0 then text (ds.take point.toNat) ++ '.' :: text (ds.drop point.toNat)
    else text ds ++ List.replicate d.exponent.toNat '0' ++ ['.', '0']
  else
    let exponent := point - 1
    text (ds.take 1) ++ (if ds.length = 1 then [] else '.' :: text (ds.drop 1)) ++ 'e' ::
      (if exponent < 0 then ['-'] else []) ++ text (digits exponent.natAbs)

/-- The text of a finite number, with a minus sign also for negative zero. -/
def ofFloat (layout : Layout) (x : Float) : String :=
  let bits := x.toBits
  let sign := if bits >>> 63 = 1 then ['-'] else []
  String.ofList (sign ++ (Binary.ofBits bits).shortest.layOut layout)

end ArtifactRegistry.Decimal
