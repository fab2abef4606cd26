import ArtifactRegistry.Json.Printer
import ArtifactRegistry.Json.Record

/-! # Scanning what was written

Strings and integers, as they are written, are scanned as one token each, and the token has the
string or the integer as its value: `StringToken.read_written` with `StringToken.text_ofText`, and
`Numeral.read_ofInt` with `Numeral.value_ofInt`.
-/

namespace ArtifactRegistry

namespace Decimal

/-- Only zero starts with a zero. -/
theorem digits_of_zero_cons {n : Nat} {others : List Nat}
    (starts : digits n = 0 :: others) : others = [] := by
  fun_induction digits n generalizing others with
  | case1 n small => exact (List.cons.inj starts).2.symm
  | case2 n large ih =>
    cases front : digits (n / 10) with
    | nil => exact absurd front (digits_ne_nil _)
    | cons d ds =>
      rw [front] at starts
      obtain rfl := (List.cons.inj starts).1
      obtain rfl := ih front
      have value := ofDigits_digits (n / 10)
      rw [front, show ofDigits [0] = 0 from rfl] at value
      omega

theorem exists_cons_ofNat (n : Nat) :
    ∃ d digits, d < 10 ∧ ofNat n = digitByte d :: digits := by
  cases split : digits n with
  | nil => exact absurd split (digits_ne_nil n)
  | cons d ds =>
    refine ⟨d, ds.map digitByte, digits_lt n d ?_, ?_⟩
    · rw [split]
      exact List.mem_cons_self
    · rw [ofNat, split]
      rfl

end Decimal

namespace Json

/-! ## Strings -/

/-- How a byte of a string is scanned after it was written. -/
def StringPiece.ofByte (c : UInt8) : StringPiece :=
  if c = quoteByte ∨ c = backslashByte then .short c
  else if 0x20 ≤ c then .byte c
  else if c ∈ [0x08, 0x0c, 0x0a, 0x0d, 0x09] then .short c
  else .unit c.toNat

/-- The literal of a text. -/
def StringToken.ofText (text : String) : StringToken :=
  ⟨(Bytes.ofText text).map .ofByte, .closed⟩

namespace StringToken

theorem read_quote (rest : Bytes) : read (quoteByte :: rest) = ⟨[], .closed⟩ := by
  rw [read.eq_def]
  rfl

theorem read_byte {c : UInt8} (notQuote : c ≠ quoteByte) (visible : 0x20 ≤ c)
    (notBackslash : c ≠ backslashByte) (rest : Bytes) :
    read (c :: rest) = cons (.byte c) (read rest) := by
  rw [read.eq_def]
  simp only [if_neg notQuote, if_neg (UInt8.not_lt.mpr visible), if_pos notBackslash]

private theorem read_backslash (letter : UInt8) (rest : Bytes) :
    read (backslashByte :: letter :: rest) =
      if letter = 0x75 then
        match rest with
        | d₁ :: d₂ :: d₃ :: d₄ :: rest =>
          match hexUnit? d₁ d₂ d₃ d₄ with
          | some value => cons (.unit value) (read rest)
          | none => ⟨[], .badHexDigits⟩
        | _ => ⟨[], .endOfInput⟩
      else match shortEscape? letter with
        | some value => cons (.short value) (read rest)
        | none => ⟨[], .unknownEscape⟩ := by
  rw [read.eq_def]
  rfl

theorem read_short (letter : UInt8) {value : UInt8} (known : shortEscape? letter = some value)
    (rest : Bytes) : read (backslashByte :: letter :: rest) = cons (.short value) (read rest) := by
  have notUnit : letter ≠ 0x75 := by
    rintro rfl
    cases known
  rw [read_backslash]
  simp only [if_neg notUnit, known]

theorem read_unit {a b c d : UInt8} {value : Nat} (known : hexUnit? a b c d = some value)
    (rest : Bytes) :
    read (backslashByte :: 0x75 :: a :: b :: c :: d :: rest) = cons (.unit value) (read rest) := by
  rw [read_backslash]
  simp only [if_true, known]

/-- The lowercase hexadecimal digit of a value below sixteen, as it is written. -/
private theorem hexUnit?_written : ∀ n < 32,
    hexUnit? 0x30 0x30
      (if UInt8.ofNat n / 16 < 10 then 0x30 + UInt8.ofNat n / 16 else 0x57 + UInt8.ofNat n / 16)
      (if UInt8.ofNat n % 16 < 10 then 0x30 + UInt8.ofNat n % 16 else 0x57 + UInt8.ofNat n % 16) =
    some n := by
  decide

/-- The written form of a byte is scanned as one piece. -/
theorem read_escapeByte (c : UInt8) (rest : Bytes) :
    read (escapeByte c ++ rest) = cons (.ofByte c) (read rest) := by
  by_cases isQuote : c = quoteByte
  · subst isQuote
    exact read_short quoteByte rfl rest
  by_cases isBackslash : c = backslashByte
  · subst isBackslash
    exact read_short backslashByte rfl rest
  by_cases visible : 0x20 ≤ c
  · simp only [escapeByte, StringPiece.ofByte, isQuote, isBackslash, visible, or_self, if_false,
      if_true]
    exact read_byte isQuote visible isBackslash rest
  by_cases lettered : c ∈ [0x08, 0x0c, 0x0a, 0x0d, 0x09]
  · simp only [List.mem_cons, List.not_mem_nil, or_false] at lettered
    rcases lettered with rfl | rfl | rfl | rfl | rfl
    · exact read_short 0x62 rfl rest
    · exact read_short 0x66 rfl rest
    · exact read_short 0x6e rfl rest
    · exact read_short 0x72 rfl rest
    · exact read_short 0x74 rfl rest
  · have below : c.toNat < 32 := UInt8.lt_iff_toNat_lt.mp (UInt8.not_le.mp visible)
    have written := hexUnit?_written c.toNat below
    rw [UInt8.ofNat_toNat] at written
    simp only [StringPiece.ofByte, isQuote, isBackslash, visible, or_self, if_false, lettered]
    simp only [List.mem_cons, List.not_mem_nil, or_false, not_or] at lettered
    obtain ⟨no8, noC, noA, noD, no9⟩ := lettered
    simp only [escapeByte, isQuote, isBackslash, visible, if_false, no8, noC, noA, noD, no9]
    exact read_unit written rest

/-- The pieces of a written text take the bytes between its quotes. -/
theorem width_ofByte (c : UInt8) : (StringPiece.ofByte c).width = (escapeByte c).length := by
  simp only [escapeByte, StringPiece.ofByte]
  split
  · next special =>
    rcases special with rfl | rfl <;> rfl
  next plain =>
  rw [not_or] at plain
  simp only [plain.1, plain.2, if_false]
  split
  · rfl
  split
  · next lettered =>
    simp only [List.mem_cons, List.not_mem_nil, or_false] at lettered
    rcases lettered with rfl | rfl | rfl | rfl | rfl <;> rfl
  · next lettered =>
    simp only [List.mem_cons, List.not_mem_nil, or_false, not_or] at lettered
    obtain ⟨no8, noC, noA, noD, no9⟩ := lettered
    simp only [no8, noC, noA, noD, no9, if_false]
    rfl

/-- The literal of a written text, and the bytes that it takes. -/
theorem read_written (text : String) (rest : Bytes) :
    read ((Bytes.ofText text).flatMap escapeByte ++ quoteByte :: rest) = .ofText text ∧
      (ofText text).width = ((Bytes.ofText text).flatMap escapeByte).length + 1 := by
  rw [ofText]
  induction Bytes.ofText text with
  | nil => exact ⟨read_quote rest, rfl⟩
  | cons c bytes ih =>
    obtain ⟨reads, widths⟩ := ih
    constructor
    · rw [List.flatMap_cons, List.append_assoc, read_escapeByte, reads]
      rfl
    · simp only [width, List.map_cons, List.foldr_cons, width_ofByte, List.flatMap_cons,
        List.length_append] at widths ⊢
      omega

private theorem encode_control : ∀ n < 32, encode n = [UInt8.ofNat n] := by
  decide

theorem decode_unit {value : Nat} (notLow : isLowSurrogate value = false)
    (notHigh : isHighSurrogate value = false) (stop : StringEnd) (rest : List StringPiece) :
    decode stop (.unit value :: rest) = (decode stop rest).map (encode value ++ ·) := by
  rw [decode.eq_def]
  simp only [notLow, notHigh, Bool.false_eq_true, if_false]

theorem decode_ofByte (bytes : Bytes) : decode .closed (bytes.map .ofByte) = .ok bytes := by
  induction bytes with
  | nil => rfl
  | cons c rest ih =>
    rw [List.map_cons, StringPiece.ofByte]
    split
    · rw [decode, ih]
      rfl
    split
    · rw [decode, ih]
      rfl
    next invisible =>
    split
    · rw [decode, ih]
      rfl
    · have below : c.toNat < 32 := UInt8.lt_iff_toNat_lt.mp (UInt8.not_le.mp invisible)
      have notLow : isLowSurrogate c.toNat = false := by
        simp only [isLowSurrogate, Bool.and_eq_false_iff, decide_eq_false_iff_not]
        omega
      have notHigh : isHighSurrogate c.toNat = false := by
        simp only [isHighSurrogate, Bool.and_eq_false_iff, decide_eq_false_iff_not]
        omega
      rw [decode_unit notLow notHigh, ih, encode_control _ below, UInt8.ofNat_toNat]
      rfl

/-- The literal of a text has the text as its value. -/
@[simp] theorem text_ofText (value : String) : (ofText value).text = .ok value := by
  simp only [text, ofText, decode_ofByte, bind, Except.bind, Bytes.toText?_ofText]
  rfl

end StringToken

/-! ## Integers -/

/-- A written number may stand before this: a blank, a comma, a closing bracket or nothing. -/
def EndsNumber (rest : Bytes) : Prop :=
  ∀ c ∈ rest.head?, isBlank c = true ∨ c = 0x2c ∨ c = 0x5d ∨ c = 0x7d

/-- Nothing that may stand behind a number continues it. -/
theorem EndsNumber.not_continued {c : UInt8} {rest : Bytes} (ends : EndsNumber (c :: rest)) :
    isDigit c = false ∧ c ≠ 0x2e ∧ c ≠ 0x65 ∧ c ≠ 0x45 := by
  have known := ends c rfl
  simp only [isBlank, Bool.or_eq_true, decide_eq_true_eq] at known
  rcases known with ((((rfl | rfl) | rfl) | rfl) | rfl | rfl | rfl) <;> decide

theorem isDigit_digitByte : ∀ d < 10, isDigit (Decimal.digitByte d) = true := by
  decide

theorem digitValue_digitByte : ∀ d < 10, digitValue (Decimal.digitByte d) = d := by
  decide

theorem takeDigits_written {digits : List Nat} (small : ∀ d ∈ digits, d < 10) {rest : Bytes}
    (ends : EndsNumber rest) :
    takeDigits (digits.map Decimal.digitByte ++ rest) = (digits, rest) := by
  have digitBytes : ∀ c ∈ digits.map Decimal.digitByte, isDigit c = true := by
    intro c member
    obtain ⟨d, there, rfl⟩ := List.mem_map.mp member
    exact isDigit_digitByte d (small d there)
  have values : (digits.map Decimal.digitByte).map digitValue = digits := by
    rw [List.map_map]
    exact (List.map_congr_left fun d there => digitValue_digitByte d (small d there)).trans
      (List.map_id digits)
  have stops : rest.takeWhile isDigit = [] ∧ rest.dropWhile isDigit = rest := by
    cases rest with
    | nil => exact ⟨rfl, rfl⟩
    | cons c rest =>
      have notDigit := ends.not_continued.1
      simp [notDigit]
  rw [takeDigits, List.takeWhile_append_of_pos digitBytes, List.dropWhile_append_of_pos digitBytes,
    stops.1, stops.2, List.append_nil, values]

/-- How an integer is scanned after it was written. -/
def Numeral.ofInt (value : Int) : Numeral :=
  ⟨decide (value < 0), Decimal.digits value.natAbs, [], none⟩

private theorem readWhole_written (n : Nat) {rest : Bytes} (ends : EndsNumber rest) :
    readWhole (Decimal.ofNat n ++ rest) = .ok (Decimal.digits n, rest) := by
  have taken := takeDigits_written (Decimal.digits_lt n) ends
  rw [readWhole, Decimal.ofNat, taken]
  split
  · next empty => exact absurd (congrArg Prod.fst empty) (Decimal.digits_ne_nil n)
  · next zero =>
    cases Decimal.digits_of_zero_cons (congrArg Prod.fst zero)
  · next same =>
    cases same
    rfl

private theorem readFraction_of_ends {rest : Bytes} (ends : EndsNumber rest) :
    readFraction rest = .ok ([], rest) := by
  rw [readFraction.eq_def]
  split
  · exact absurd rfl ends.not_continued.2.1
  · rfl

private theorem readExponent_of_ends {rest : Bytes} (ends : EndsNumber rest) :
    readExponent rest = .ok (none, rest) := by
  cases rest with
  | nil => rfl
  | cons c rest =>
    obtain ⟨-, -, small, large⟩ := ends.not_continued
    simp only [readExponent, small, large, or_self, if_false]

/-- Without a sign, the digits start at once. -/
private theorem read_unsigned {c : UInt8} (notSign : c ≠ 0x2d) (input : Bytes) :
    Numeral.read (c :: input) = do
      let (whole, rest) ← readWhole (c :: input)
      let (fraction, rest) ← readFraction rest
      let (exponent, rest) ← readExponent rest
      return (⟨false, whole, fraction, exponent⟩, rest) := by
  rw [Numeral.read]
  exact fun rest same => notSign (List.cons.inj same).1

/-- The numeral of a written integer. -/
theorem Numeral.read_ofInt (value : Int) {rest : Bytes} (ends : EndsNumber rest) :
    Numeral.read (Decimal.ofInt value ++ rest) = .ok (.ofInt value, rest) := by
  cases value with
  | ofNat n =>
    obtain ⟨d, digits, small, starts⟩ := Decimal.exists_cons_ofNat n
    have notSign : Decimal.digitByte d ≠ 0x2d := by
      intro same
      have isOne := isDigit_digitByte d small
      rw [same] at isOne
      cases isOne
    have whole := readWhole_written n ends
    rw [starts] at whole
    rw [Decimal.ofInt, starts, List.cons_append, read_unsigned notSign]
    rw [List.cons_append] at whole
    simp only [whole, bind, Except.bind, readFraction_of_ends ends, readExponent_of_ends ends]
    rfl
  | negSucc n =>
    have whole := readWhole_written (n + 1) ends
    simp only [Numeral.read, Decimal.ofInt, List.cons_append, whole, bind, Except.bind,
      readFraction_of_ends ends, readExponent_of_ends ends, Numeral.ofInt, Int.negSucc_lt_zero,
      decide_true, Int.natAbs_negSucc]
    rfl

/-- A written integer has itself as its value, as long as it fits 64 bits. -/
theorem Numeral.value_ofInt {value : Int} (low : -0x8000000000000000 ≤ value)
    (high : value ≤ 0xffffffffffffffff) :
    (Numeral.ofInt value).value = .ok (.integer value) := by
  simp only [Numeral.value, Numeral.ofInt, Decimal.ofDigits_digits, List.isEmpty_nil,
    Option.isNone_none, Bool.and_self, Bool.true_and, coefficientLimit]
  by_cases negative : value < 0
  · have magnitude : 0 < value.natAbs ∧ value.natAbs ≤ 0x8000000000000000 := by omega
    simp only [negative, decide_true, Bool.not_true, Bool.false_and, Bool.false_eq_true, if_false,
      magnitude, Bool.and_self, if_true]
    rw [show (-(value.natAbs : Int)) = value by omega]
  · have magnitude : value.natAbs ≤ 0xffffffffffffffff := by omega
    simp only [negative, decide_false, Bool.not_false, magnitude, decide_true, Bool.and_self,
      if_true]
    rw [show (value.natAbs : Int) = value by omega]

end Json

end ArtifactRegistry
