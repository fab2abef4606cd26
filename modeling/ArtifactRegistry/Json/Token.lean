import ArtifactRegistry.Bytes
import ArtifactRegistry.Json.Error

/-! # Tokens of a JSON text

`Token.scan` cuts a text into tokens without knowing what the document should contain. String
literals keep their escapes and numbers their digits, because what is an error in a value that is
kept may be fine in one that is skipped. Scanning ends at the first token that is broken in itself.
-/

namespace ArtifactRegistry.Json

/-- One piece of a string literal. -/
inductive StringPiece where
  /-- A byte that stands for itself. -/
  | byte (value : UInt8)
  /-- A backslash and a letter, with the byte they stand for. -/
  | short (value : UInt8)
  /-- A backslash, a `u` and four digits, with their value. -/
  | unit (value : Nat)
deriving DecidableEq, Repr

/-- How many bytes of the text a piece takes. -/
def StringPiece.width : StringPiece → Nat
  | byte _ => 1
  | short _ => 2
  | unit _ => 6

/-- What ended a string literal. -/
inductive StringEnd where
  | closed
  | endOfInput
  | controlCharacter
  | unknownEscape
  | badHexDigits
deriving DecidableEq, Repr

/-- A string literal without its opening quote. -/
structure StringToken where
  pieces : List StringPiece
  stop : StringEnd
deriving DecidableEq, Repr

namespace StringToken

def cons (piece : StringPiece) (token : StringToken) : StringToken :=
  ⟨piece :: token.pieces, token.stop⟩

/-- The bytes between the quotes and the closing quote. -/
def width (token : StringToken) : Nat := token.pieces.foldr (fun piece rest => piece.width + rest) 1

end StringToken

def quoteByte : UInt8 := 0x22
def backslashByte : UInt8 := 0x5c

/-- The byte that a one-letter escape stands for. -/
def shortEscape? (letter : UInt8) : Option UInt8 :=
  [(quoteByte, quoteByte), (backslashByte, backslashByte), (0x2f, 0x2f), (0x62, 0x08),
    (0x66, 0x0c), (0x6e, 0x0a), (0x72, 0x0d), (0x74, 0x09)].lookup letter

/-- The value of four hexadecimal digits. -/
def hexUnit? (a b c d : UInt8) : Option Nat :=
  match Bytes.hexDigit? a, Bytes.hexDigit? b, Bytes.hexDigit? c, Bytes.hexDigit? d with
  | some a, some b, some c, some d => some (a * 4096 + b * 256 + c * 16 + d)
  | _, _, _, _ => none

/-- Reads a string literal from just behind its opening quote. -/
def StringToken.read : Bytes → StringToken
  | [] => ⟨[], .endOfInput⟩
  | c :: rest =>
    if c = quoteByte then ⟨[], .closed⟩
    else if c < 0x20 then ⟨[], .controlCharacter⟩
    else if c ≠ backslashByte then cons (.byte c) (read rest)
    else match rest with
      | [] => ⟨[], .endOfInput⟩
      | letter :: rest =>
        if letter = 0x75 then
          match rest with
          | d₁ :: d₂ :: d₃ :: d₄ :: rest =>
            match hexUnit? d₁ d₂ d₃ d₄ with
            | some value => cons (.unit value) (read rest)
            | none => ⟨[], .badHexDigits⟩
          | _ => ⟨[], .endOfInput⟩
        else match shortEscape? letter with
          | some value => cons (.short value) (read rest)
          | none => ⟨[], .unknownEscape⟩

/-- A number as written: digits before the point, digits after it, and a signed exponent. -/
structure Numeral where
  negative : Bool
  whole : List Nat
  fraction : List Nat
  exponent : Option (Bool × List Nat)
deriving DecidableEq, Repr

/-- Why there is no value where one is due. -/
inductive BadValue where
  | endOfInput
  | unexpected
  | literalCutShort
  | brokenLiteral
  | numberCutShort
  | brokenNumber
  | noColon
  | endBeforeColon
deriving DecidableEq, Repr

inductive Token where
  | null
  | boolean (value : Bool)
  | number (numeral : Numeral)
  | string (token : StringToken)
  | listOpen
  | listClose
  | objectOpen
  | objectClose
  | comma
  | colon
  | bad (reason : BadValue)
deriving DecidableEq, Repr

def isDigit (c : UInt8) : Bool := 0x30 ≤ c && c ≤ 0x39

def digitValue (c : UInt8) : Nat := c.toNat - 48

/-- Splits off a run of digits. -/
def takeDigits (input : Bytes) : List Nat × Bytes :=
  ((input.takeWhile isDigit).map digitValue, input.dropWhile isDigit)

/-- The reason why a digit is missing at this place. -/
private def noDigit (input : Bytes) : BadValue :=
  if input.isEmpty then .numberCutShort else .brokenNumber

/-- Reads the digits that must stand before a point: a zero alone or a run without a leading one. -/
def readWhole (input : Bytes) : Except BadValue (List Nat × Bytes) :=
  match takeDigits input with
  | ([], _) => .error (noDigit input)
  | (0 :: _ :: _, _) => .error .brokenNumber
  | (whole, rest) => .ok (whole, rest)

/-- Reads a point and at least one digit, when there is a point. -/
def readFraction (input : Bytes) : Except BadValue (List Nat × Bytes) :=
  match input with
  | 0x2e :: after =>
    match takeDigits after with
    | ([], _) => .error (noDigit after)
    | (fraction, rest) => .ok (fraction, rest)
  | _ => .ok ([], input)

/-- Splits off the sign of an exponent; true means negative. -/
def takeSign : Bytes → Bool × Bytes
  | 0x2b :: rest => (false, rest)
  | 0x2d :: rest => (true, rest)
  | input => (false, input)

/-- Reads an exponent mark, a sign and at least one digit, when there is a mark. -/
def readExponent (input : Bytes) : Except BadValue (Option (Bool × List Nat) × Bytes) :=
  match input with
  | [] => .ok (none, [])
  | mark :: after =>
    if mark = 0x65 ∨ mark = 0x45 then
      match takeDigits (takeSign after).2 with
      | ([], _) => .error (noDigit (takeSign after).2)
      | (digits, rest) => .ok (some ((takeSign after).1, digits), rest)
    else .ok (none, input)

/-- Reads a number and returns what follows it. -/
def Numeral.read (input : Bytes) : Except BadValue (Numeral × Bytes) := do
  let (negative, input) := match input with
    | 0x2d :: rest => (true, rest)
    | _ => (false, input)
  let (whole, rest) ← readWhole input
  let (fraction, rest) ← readFraction rest
  let (exponent, rest) ← readExponent rest
  return (⟨negative, whole, fraction, exponent⟩, rest)

/-- Reads the rest of a literal word: every byte must be there and must agree. -/
def readWord (token : Token) : Bytes → Bytes → Token
  | [], _ => token
  | _ :: _, [] => .bad .literalCutShort
  | expected :: word, found :: input =>
    if expected = found then readWord token word input else .bad .brokenLiteral

def isBlank (c : UInt8) : Bool := c = 0x20 || c = 0x09 || c = 0x0a || c = 0x0d

/-- The token that starts with byte `c` and the number of bytes after `c` that belong to it. -/
def Token.read (c : UInt8) (rest : Bytes) : Token × Nat :=
  if c = quoteByte then
    let token := StringToken.read rest
    (.string token, token.width)
  else if c = 0x2d ∨ isDigit c then
    match Numeral.read (c :: rest) with
    | .ok (numeral, after) => (.number numeral, rest.length - after.length)
    | .error reason => (.bad reason, 0)
  else if c = 0x6e then (readWord .null (Bytes.ofText "ull") rest, 3)
  else if c = 0x74 then (readWord (.boolean true) (Bytes.ofText "rue") rest, 3)
  else if c = 0x66 then (readWord (.boolean false) (Bytes.ofText "alse") rest, 4)
  else if c = 0x5b then (.listOpen, 0)
  else if c = 0x5d then (.listClose, 0)
  else if c = 0x7b then (.objectOpen, 0)
  else if c = 0x7d then (.objectClose, 0)
  else if c = 0x2c then (.comma, 0)
  else if c = 0x3a then (.colon, 0)
  else (.bad .unexpected, 0)

/-- Whether nothing can be read behind a token. -/
def Token.isBroken : Token → Bool
  | .string token => token.stop ≠ .closed
  | .bad _ => true
  | _ => false

/-- The tokens behind the first `skip` bytes, up to and including the first broken one. -/
def Token.scanFrom : Nat → Bytes → List Token
  | _, [] => []
  | skip + 1, _ :: rest => scanFrom skip rest
  | 0, c :: rest =>
    if isBlank c then scanFrom 0 rest
    else
      let (token, width) := Token.read c rest
      if token.isBroken then [token] else token :: scanFrom width rest

/-- The tokens of a text. -/
def Token.scan (input : Bytes) : List Token := scanFrom 0 input

end ArtifactRegistry.Json
