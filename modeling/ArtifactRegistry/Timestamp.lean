import ArtifactRegistry.Bytes
import ArtifactRegistry.Decimal.Numeral
import ArtifactRegistry.Text.Quoted
import ArtifactRegistry.Timestamp.Calendar

/-! # Timestamps

Instants in universal time, read from and written as RFC 3339 texts. Any offset is accepted and
taken off. A leap second is the second before it with a billion more nanoseconds, so that it comes
after that second and before the next.
-/

namespace ArtifactRegistry

structure Timestamp where
  /-- Whole seconds since the start of 1970, leap seconds not counted. -/
  seconds : Int
  /-- Nanoseconds within the second; a billion or more within a leap second. -/
  nanos : Nat
deriving DecidableEq, Repr

/-- Why a text is not a timestamp. -/
inductive TimestampError.Reason where
  | invalid
  | outOfRange
  | premature
  | trailing
deriving DecidableEq, Repr

def TimestampError.Reason.message : TimestampError.Reason → String
  | invalid => "input contains invalid characters"
  | outOfRange => "input is out of range"
  | premature => "premature end of input"
  | trailing => "trailing input"

structure TimestampError where
  value : String
  reason : TimestampError.Reason
deriving DecidableEq, Repr

def TimestampError.message (error : TimestampError) : String :=
  s!"invalid timestamp {Text.quote error.value}: {error.reason.message}"

namespace Timestamp

open TimestampError (Reason)

/-- Earlier instants come first; within a second, fewer nanoseconds. -/
def compare (a b : Timestamp) : Ordering :=
  (Ord.compare a.seconds b.seconds).then (Ord.compare a.nanos b.nanos)

/-- Reads digits of a fixed count. -/
def number (digits : List UInt8) : Except Reason Nat :=
  if digits.all fun c => 0x30 ≤ c && c ≤ 0x39 then
    .ok (Decimal.ofDigits (digits.map fun c => c.toNat - 48))
  else .error .invalid

/-- Reads one given character. -/
def expect (allowed : List UInt8) : List UInt8 → Except Reason Unit
  | [c] => if c ∈ allowed then .ok () else .error .invalid
  | _ => .error .premature

/-- Reads the date, the first ten bytes. -/
def readDate (text : Bytes) : Except Reason Calendar.Date := do
  let year ← number (text.take 4)
  expect [0x2d] ((text.drop 4).take 1)
  let month ← number ((text.drop 5).take 2)
  expect [0x2d] ((text.drop 7).take 1)
  let day ← number ((text.drop 8).take 2)
  let date : Calendar.Date := ⟨year, month, day⟩
  if date.isValid then return date else throw .outOfRange

/-- Reads the separator and the time of day, the nine bytes behind the date. -/
def readClock (text : Bytes) : Except Reason (Nat × Nat × Nat) := do
  expect [0x54, 0x74, 0x20] (text.take 1)
  let hour ← number ((text.drop 1).take 2)
  expect [0x3a] ((text.drop 3).take 1)
  let minute ← number ((text.drop 4).take 2)
  expect [0x3a] ((text.drop 6).take 1)
  let second ← number ((text.drop 7).take 2)
  return (hour, minute, second)

def isDigit (c : UInt8) : Bool := 0x30 ≤ c && c ≤ 0x39

/-- Reads a fraction of a second when there is a point, in nanoseconds. Digits behind the ninth
are dropped. -/
def readFraction (text : Bytes) : Except Reason (Nat × Bytes) :=
  match text with
  | 0x2e :: rest =>
    let digits := rest.takeWhile isDigit
    if rest = [] then .error .premature
    else if digits = [] then .error .invalid
    else
      let kept := digits.take 9
      .ok (Decimal.ofDigits (kept.map fun c => c.toNat - 48) * Nat.pow 10 (9 - kept.length),
        rest.drop digits.length)
  | _ => .ok (0, text)

/-- Reads two digits. -/
def readPair : Bytes → Except Reason (Nat × Bytes)
  | a :: b :: rest => do return (← number [a, b], rest)
  | _ => .error .premature

/-- Reads the sign of an offset; the minus sign of mathematics is one too. -/
def readSign : Bytes → Except Reason (Int × Bytes)
  | [] => .error .premature
  | 0x2b :: rest => .ok (1, rest)
  | 0x2d :: rest => .ok (-1, rest)
  | 0xe2 :: 0x88 :: 0x92 :: rest => .ok (-1, rest)
  | _ => .error .invalid

/-- Reads an offset from universal time, in seconds, which must be the last part of the text. -/
def readOffset (text : Bytes) : Except Reason Int := do
  let (offset, rest) ←
    match text with
    | 0x5a :: rest => pure (0, rest)
    | 0x7a :: rest => pure (0, rest)
    | _ => do
      let (sign, rest) ← readSign text
      let (hours, rest) ← readPair rest
      expect [0x3a] (rest.take 1)
      let (minutes, rest) ← readPair (rest.drop 1)
      if minutes < 60 then pure (sign * (hours * 3600 + minutes * 60 : Nat), rest)
      else throw .outOfRange
  if rest ≠ [] then throw .trailing
  else if offset.natAbs < 86400 then return offset
  else throw .outOfRange

def ofParts (date : Calendar.Date) (hour minute second nanos : Nat) (offset : Int) : Timestamp :=
  let leap := second = 60
  let whole := if leap then 59 else second
  { seconds := date.dayNumber * 86400 + hour * 3600 + minute * 60 + whole - offset
    nanos := if leap then nanos + 1000000000 else nanos }

/-- Reads an RFC 3339 text from left to right. -/
def read (text : Bytes) : Except Reason Timestamp := do
  if text.length < 19 then throw .premature
  let date ← readDate text
  let (hour, minute, second) ← readClock (text.drop 10)
  let (nanos, rest) ← readFraction (text.drop 19)
  if hour ≤ 23 ∧ minute ≤ 59 ∧ second ≤ 60 then
    let offset ← readOffset rest
    return ofParts date hour minute second nanos offset
  else throw .outOfRange

/-- The instant that an RFC 3339 text denotes. -/
def parse (text : String) : Except TimestampError Timestamp :=
  (read (Bytes.ofText text)).mapError fun reason => ⟨text, reason⟩

/-- A year of four digits, or a signed one outside of the years that have four. -/
def yearText (year : Int) : String :=
  if 0 ≤ year ∧ year ≤ 9999 then Decimal.padded 4 year.toNat
  else (if year < 0 then "-" else "+") ++ Decimal.padded 4 year.natAbs

/-- The fewest of 0, 3, 6 and 9 places that lose nothing. -/
def fractionText (nanos : Nat) : String :=
  if nanos = 0 then ""
  else if nanos % 1000000 = 0 then "." ++ Decimal.padded 3 (nanos / 1000000)
  else if nanos % 1000 = 0 then "." ++ Decimal.padded 6 (nanos / 1000)
  else "." ++ Decimal.padded 9 nanos

/-- The RFC 3339 text in universal time. -/
def toText (t : Timestamp) : String :=
  let date := Calendar.Date.ofDayNumber (t.seconds / 86400)
  let clock := (t.seconds % 86400).toNat
  let leap := 1000000000 ≤ t.nanos
  let second := clock % 60 + if leap then 1 else 0
  let nanos := if leap then t.nanos - 1000000000 else t.nanos
  let two := Decimal.padded 2
  s!"{yearText date.year}-{two date.month}-{two date.day}T"
    ++ s!"{two (clock / 3600)}:{two (clock / 60 % 60)}:{two second}{fractionText nanos}Z"

end Timestamp

end ArtifactRegistry
