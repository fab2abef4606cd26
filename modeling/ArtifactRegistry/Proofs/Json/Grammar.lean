import ArtifactRegistry.Proofs.Json.Skipping
import ArtifactRegistry.Proofs.Json.Tree

/-! # The grammar of texts

`Phrase.Spelled` says which stretches of text the grammar admits, on bytes: strings may hold any
byte that is no control character, whatever it encodes, and the short and the long escapes. A text of
this grammar is JSON when it is UTF-8 as well, `IsObjectText`. Tokens are scanned by the same rules: one
that is not broken takes a stretch of the text which spells it, `Token.read_spells`.
-/

namespace ArtifactRegistry.Json

/-! ## Words -/

/-- Nothing but blanks. -/
def Blank (text : Bytes) : Prop := ∀ c ∈ text, isBlank c = true

/-- One digit or more. -/
def Digits (text : Bytes) : Prop := text ≠ [] ∧ ∀ c ∈ text, isDigit c = true

/-- Digits without a needless zero in front. -/
def WholeDigits (text : Bytes) : Prop := Digits text ∧ (text.head? = some 0x30 → text = [0x30])

/-- A point and digits, or nothing. -/
def FractionPart (text : Bytes) : Prop := text = [] ∨ ∃ digits, Digits digits ∧ text = 0x2e :: digits

/-- A mark, a sign that may be missing, and digits, or nothing. -/
def ExponentPart (text : Bytes) : Prop :=
  text = [] ∨ ∃ mark sign digits, (mark = 0x65 ∨ mark = 0x45) ∧
    sign ∈ [[], [0x2b], [0x2d]] ∧ Digits digits ∧ text = mark :: (sign ++ digits)

/-- A number. -/
def NumberLiteral (text : Bytes) : Prop :=
  ∃ minus whole fraction exponent, minus ∈ [[], [0x2d]] ∧ WholeDigits whole ∧
    FractionPart fraction ∧ ExponentPart exponent ∧ text = minus ++ (whole ++ (fraction ++ exponent))

/-- A digit of a long escape. -/
def IsHexDigit (c : UInt8) : Prop :=
  isDigit c = true ∨ 0x41 ≤ c ∧ c ≤ 0x46 ∨ 0x61 ≤ c ∧ c ≤ 0x66

/-- What may stand between the quotes of a string. This is wider than JSON: the plain bytes need not be
UTF-8. -/
inductive Characters : Bytes → Prop where
  | nil : Characters []
  | plain {c : UInt8} {rest : Bytes} (visible : 0x20 ≤ c) (notQuote : c ≠ quoteByte)
      (notBackslash : c ≠ backslashByte) (others : Characters rest) : Characters (c :: rest)
  | short {letter : UInt8} {rest : Bytes} (known : letter ∈ Bytes.ofText "\"\\/bfnrt")
      (others : Characters rest) : Characters (backslashByte :: letter :: rest)
  | long {a b c d : UInt8} {rest : Bytes} (hex : ∀ digit ∈ [a, b, c, d], IsHexDigit digit)
      (others : Characters rest) : Characters (backslashByte :: 0x75 :: a :: b :: c :: d :: rest)

/-- A string. -/
def StringLiteral (text : Bytes) : Prop :=
  ∃ characters, Characters characters ∧ text = quoteByte :: (characters ++ [quoteByte])

/-! ## Phrases -/

/-- What a stretch of text can be. -/
inductive Phrase where
  | value
  | list
  | object
  /-- A value with blanks around it. -/
  | item
  /-- A key and an item, with a colon in between. -/
  | member
  /-- One part or more, with commas in between. -/
  | series (part : Phrase)

/-- The stretches of text that are a phrase of the grammar. -/
inductive Phrase.Spelled : Phrase → Bytes → Prop where
  | nullWord : Spelled value (Bytes.ofText "null")
  | trueWord : Spelled value (Bytes.ofText "true")
  | falseWord : Spelled value (Bytes.ofText "false")
  | number {text : Bytes} (number : NumberLiteral text) : Spelled value text
  | string {text : Bytes} (string : StringLiteral text) : Spelled value text
  | ofList {text : Bytes} (inner : Spelled list text) : Spelled value text
  | ofObject {text : Bytes} (inner : Spelled object text) : Spelled value text
  | emptyList {blanks : Bytes} (blank : Blank blanks) : Spelled list (0x5b :: (blanks ++ [0x5d]))
  | list {text : Bytes} (items : Spelled (series item) text) :
      Spelled list (0x5b :: (text ++ [0x5d]))
  | emptyObject {blanks : Bytes} (blank : Blank blanks) :
      Spelled object (0x7b :: (blanks ++ [0x7d]))
  | object {text : Bytes} (members : Spelled (series member) text) :
      Spelled object (0x7b :: (text ++ [0x7d]))
  | item {before text after : Bytes} (leading : Blank before) (inner : Spelled value text)
      (trailing : Blank after) : Spelled item (before ++ (text ++ after))
  | member {before key between text : Bytes} (leading : Blank before) (named : StringLiteral key)
      (middle : Blank between) (inner : Spelled item text) :
      Spelled member (before ++ (key ++ (between ++ 0x3a :: text)))
  | one {part : Phrase} {text : Bytes} (first : Spelled part text) : Spelled (series part) text
  | more {part : Phrase} {texts text : Bytes} (others : Spelled (series part) texts)
      (last : Spelled part text) : Spelled (series part) (texts ++ 0x2c :: text)

/-- A whole text: one phrase, and blanks around it. Its strings need not be UTF-8. -/
def Phrase.Enclosed (phrase : Phrase) (text : Bytes) : Prop :=
  ∃ before inner after, Blank before ∧ phrase.Spelled inner ∧ Blank after ∧
    text = before ++ (inner ++ after)

/-- A text is a JSON object, with blanks around it, when it is an object of the grammar and UTF-8. -/
def IsObjectText (text : Bytes) : Prop :=
  Phrase.object.Enclosed text ∧ ∃ decoded, Bytes.toText? text = some decoded

theorem dropWhile_isBlank {before rest : Bytes} {c : UInt8} (blank : Blank before)
    (visible : isBlank c = false) : (before ++ c :: rest).dropWhile isBlank = c :: rest := by
  rw [List.dropWhile_append_of_pos blank, List.dropWhile_cons_of_neg (by simp [visible])]

/-- An object starts with a brace, behind its blanks. -/
theorem Phrase.Enclosed.brace {text : Bytes} (enclosed : Phrase.object.Enclosed text) :
    ∃ rest, text.dropWhile isBlank = 0x7b :: rest := by
  obtain ⟨before, inner, after, leading, spelled, -, rfl⟩ := enclosed
  cases spelled with
  | emptyObject | object => exact ⟨_, dropWhile_isBlank leading rfl⟩

/-! ## Numbers -/

theorem takeDigits_spells {input rest : Bytes} {digits : List Nat}
    (took : takeDigits input = (digits, rest)) (found : digits ≠ []) :
    ∃ taken, input = taken ++ rest ∧ Digits taken ∧ digits = taken.map digitValue := by
  obtain ⟨rfl, rfl⟩ := Prod.mk.inj took
  refine ⟨input.takeWhile isDigit, List.takeWhile_append_dropWhile.symm, ⟨?_, ?_⟩, rfl⟩
  · intro empty
    exact found (by rw [empty, List.map_nil])
  · intro c member
    exact List.all_eq_true.mp List.all_takeWhile c member

theorem readWhole_spells {input rest : Bytes} {digits : List Nat}
    (read : readWhole input = .ok (digits, rest)) :
    ∃ taken, input = taken ++ rest ∧ WholeDigits taken := by
  rw [readWhole] at read
  split at read
  · cases read
  · cases read
  · next whole after notNil notZero took =>
    cases read
    obtain ⟨taken, split, isDigits, values⟩ :=
      takeDigits_spells took notNil
    refine ⟨taken, split, isDigits, ?_⟩
    intro starts
    obtain ⟨others, rfl⟩ := List.head?_eq_some_iff.mp starts
    cases others with
    | nil => rfl
    | cons c others =>
      exact absurd values (notZero _ _)

theorem readFraction_spells {input rest : Bytes} {digits : List Nat}
    (read : readFraction input = .ok (digits, rest)) :
    ∃ taken, input = taken ++ rest ∧ FractionPart taken := by
  rw [readFraction.eq_def] at read
  split at read
  · next after =>
    split at read
    · cases read
    · next fraction after' notNil took =>
      cases read
      obtain ⟨taken, rfl, isDigits, -⟩ :=
        takeDigits_spells took notNil
      exact ⟨0x2e :: taken, rfl, .inr ⟨taken, isDigits, rfl⟩⟩
  · cases read
    exact ⟨[], rfl, .inl rfl⟩

theorem takeSign_spells (input : Bytes) :
    ∃ sign : Bytes, sign ∈ [[], [0x2b], [0x2d]] ∧ input = sign ++ (takeSign input).2 := by
  rw [takeSign.eq_def]
  split
  · exact ⟨[0x2b], by decide, rfl⟩
  · exact ⟨[0x2d], by decide, rfl⟩
  · exact ⟨[], by decide, rfl⟩

theorem readExponent_spells {input rest : Bytes} {exponent : Option (Bool × List Nat)}
    (read : readExponent input = .ok (exponent, rest)) :
    ∃ taken, input = taken ++ rest ∧ ExponentPart taken := by
  cases input with
  | nil =>
    cases read
    exact ⟨[], rfl, .inl rfl⟩
  | cons mark after =>
    rw [readExponent] at read
    split at read
    · next isMark =>
      split at read
      · cases read
      · next digits after' notNil took =>
        cases read
        obtain ⟨sign, isSign, signed⟩ := takeSign_spells after
        obtain ⟨taken, split, isDigits, -⟩ :=
          takeDigits_spells took notNil
        refine ⟨mark :: (sign ++ taken), ?_, .inr ⟨mark, sign, taken, isMark, isSign, isDigits, rfl⟩⟩
        rw [List.cons_append, List.append_assoc, ← split, ← signed]
    · cases read
      exact ⟨[], rfl, .inl rfl⟩

/-- What is read as a number is one. -/
theorem Numeral.read_spells {input rest : Bytes} {numeral : Numeral}
    (read : Numeral.read input = .ok (numeral, rest)) :
    ∃ taken, input = taken ++ rest ∧ NumberLiteral taken := by
  rw [Numeral.read.eq_def] at read
  split at read
  next negative unsigned split =>
  obtain ⟨minus, isMinus, rfl⟩ : ∃ minus ∈ [[], [0x2d]], input = minus ++ unsigned := by
    split at split
    · cases split
      exact ⟨[0x2d], by decide, rfl⟩
    · cases split
      exact ⟨[], by decide, rfl⟩
  obtain ⟨⟨_, _⟩, readsWhole, read⟩ := bind_eq_ok_iff.mp read
  obtain ⟨⟨_, _⟩, readsFraction, read⟩ := bind_eq_ok_iff.mp read
  obtain ⟨⟨_, _⟩, readsExponent, ⟨⟩⟩ := bind_eq_ok_iff.mp read
  obtain ⟨whole, rfl, isWhole⟩ := readWhole_spells readsWhole
  obtain ⟨fraction, rfl, isFraction⟩ := readFraction_spells readsFraction
  obtain ⟨exponent, rfl, isExponent⟩ := readExponent_spells readsExponent
  refine ⟨minus ++ (whole ++ (fraction ++ exponent)), ?_, minus, whole, fraction, exponent, isMinus,
    isWhole, isFraction, isExponent, rfl⟩
  simp only [List.append_assoc]

/-! ## Strings -/

theorem isHexDigit_of_known {c : UInt8} {value : Nat} (known : Bytes.hexDigit? c = some value) :
    IsHexDigit c := by
  simp only [IsHexDigit, isDigit, Bool.and_eq_true, decide_eq_true_eq, UInt8.le_iff_toNat_le]
  rw [Bytes.hexDigit?] at known
  split at known
  · next digit => exact .inl digit
  split at known
  · next upper => exact .inr (.inl upper)
  split at known
  · next lower => exact .inr (.inr lower)
  · cases known

theorem hex_of_hexUnit? {a b c d : UInt8} {value : Nat} (known : hexUnit? a b c d = some value) :
    ∀ digit ∈ [a, b, c, d], IsHexDigit digit := by
  rw [hexUnit?] at known
  split at known
  · next first second third fourth =>
    simp only [List.forall_mem_cons]
    exact ⟨isHexDigit_of_known first, isHexDigit_of_known second, isHexDigit_of_known third,
      isHexDigit_of_known fourth, nofun⟩
  · cases known

theorem letter_of_shortEscape? {letter value : UInt8} (known : shortEscape? letter = some value) :
    letter ∈ Bytes.ofText "\"\\/bfnrt" := by
  obtain ⟨before, after, table, -⟩ := List.lookup_eq_some_iff.mp known
  have listed : (letter, value) ∈ before ++ (letter, value) :: after := List.mem_append_cons_self
  rw [← table] at listed
  exact List.mem_map_of_mem (f := Prod.fst) listed

theorem StringToken.width_cons (piece : StringPiece) (token : StringToken) :
    (cons piece token).width = piece.width + token.width := rfl

/-- What is read as a closed string is one, but for its opening quote. -/
theorem StringToken.read_spells {input : Bytes} (closed : (read input).stop = .closed) :
    ∃ characters rest, Characters characters ∧ input = characters ++ quoteByte :: rest ∧
      (read input).width = characters.length + 1 := by
  fun_induction read input with
  | case2 rest => exact ⟨[], rest, .nil, rfl, rfl⟩
  | case4 c rest notQuote visible notBackslash ih =>
    obtain ⟨characters, behind, spelled, rfl, width⟩ := ih closed
    refine ⟨c :: characters, behind, ?_, rfl, ?_⟩
    · exact .plain (UInt8.not_lt.mp visible) notQuote notBackslash spelled
    · rw [width_cons, width, StringPiece.width, List.length_cons]
      omega
  | case6 c notQuote visible isBackslash d₁ d₂ d₃ d₄ rest value known ih =>
    obtain ⟨characters, behind, spelled, rfl, width⟩ := ih closed
    obtain rfl := not_not.mp isBackslash
    refine ⟨backslashByte :: 0x75 :: d₁ :: d₂ :: d₃ :: d₄ :: characters, behind, ?_, rfl, ?_⟩
    · exact .long (hex_of_hexUnit? known) spelled
    · simp only [width_cons, width, StringPiece.width, List.length_cons]
      omega
  | case9 c notQuote visible isBackslash letter rest notUnit value known ih =>
    obtain ⟨characters, behind, spelled, rfl, width⟩ := ih closed
    obtain rfl := not_not.mp isBackslash
    refine ⟨backslashByte :: letter :: characters, behind, ?_, rfl, ?_⟩
    · exact .short (letter_of_shortEscape? known) spelled
    · simp only [width_cons, width, StringPiece.width, List.length_cons]
      omega
  | _ => cases closed

/-! ## Tokens -/

/-- The stretch of text that a token stands for. -/
inductive Token.Spells : Token → Bytes → Prop where
  | null : Spells null (Bytes.ofText "null")
  | yes : Spells (boolean true) (Bytes.ofText "true")
  | no : Spells (boolean false) (Bytes.ofText "false")
  | number {numeral : Numeral} {text : Bytes} (literal : NumberLiteral text) :
      Spells (number numeral) text
  | string {token : StringToken} {text : Bytes} (literal : StringLiteral text) :
      Spells (string token) text
  | listOpen : Spells listOpen [0x5b]
  | listClose : Spells listClose [0x5d]
  | objectOpen : Spells objectOpen [0x7b]
  | objectClose : Spells objectClose [0x7d]
  | comma : Spells comma [0x2c]
  | colon : Spells colon [0x3a]

theorem NumberLiteral.ne_nil {text : Bytes} (literal : NumberLiteral text) : text ≠ [] := by
  obtain ⟨minus, whole, fraction, exponent, -, ⟨⟨notEmpty, -⟩, -⟩, -, -, rfl⟩ := literal
  simp [notEmpty]

/-- A literal word that is not broken takes the letters behind its first. -/
theorem readWord_spells {token : Token} {c : UInt8} {word input : Bytes}
    (whole : (readWord token word input).isBroken = false) (spelled : token.Spells (c :: word)) :
    ∃ rest, input = word ++ rest ∧ (readWord token word input).Spells (c :: word) := by
  suffices readWord token word input = token ∧ ∃ rest, input = word ++ rest by
    obtain ⟨same, rest, split⟩ := this
    exact ⟨rest, split, by rw [same]; exact spelled⟩
  clear spelled
  fun_induction readWord token word input with
  | case1 input => exact ⟨rfl, input, rfl⟩
  | case2 | case4 => cases whole
  | case3 word expected input ih =>
    obtain ⟨same, rest, rfl⟩ := ih whole
    exact ⟨same, rest, rfl⟩

/-- A token that is not broken takes as many bytes as it says, and they spell it. -/
theorem Token.read_spells (c : UInt8) (rest : Bytes)
    (whole : (Token.read c rest).1.isBroken = false) :
    ∃ taken behind, rest = taken ++ behind ∧ (Token.read c rest).2 = taken.length ∧
      (Token.read c rest).1.Spells (c :: taken) := by
  revert whole
  fun_cases Token.read c rest
  case case1 isQuote token =>
    intro whole
    have closed : (StringToken.read rest).stop = .closed := by simpa [isBroken] using whole
    obtain ⟨characters, behind, spelled, split, width_eq⟩ := StringToken.read_spells closed
    refine ⟨characters ++ [quoteByte], behind, ?_, ?_, .string ⟨characters, spelled, ?_⟩⟩
    · rw [split, List.append_assoc, List.singleton_append]
    · rw [List.length_append]
      exact width_eq
    · rw [isQuote]
  case case2 numeral behind reads =>
    intro whole
    obtain ⟨taken, text_eq, spelled⟩ := Numeral.read_spells reads
    cases taken with
    | nil => exact absurd rfl spelled.ne_nil
    | cons first taken =>
      rw [List.cons_append, List.cons.injEq] at text_eq
      obtain ⟨rfl, rfl⟩ := text_eq
      refine ⟨taken, behind, rfl, ?_, .number spelled⟩
      simp only [List.length_append, Nat.add_sub_cancel]
  case case3 | case13 => nofun
  case case4 isLetter =>
    intro whole
    obtain ⟨behind, split, spelled⟩ := readWord_spells whole .null
    exact ⟨Bytes.ofText "ull", behind, split, rfl, isLetter ▸ spelled⟩
  case case5 isLetter =>
    intro whole
    obtain ⟨behind, split, spelled⟩ := readWord_spells whole .yes
    exact ⟨Bytes.ofText "rue", behind, split, rfl, isLetter ▸ spelled⟩
  case case6 isLetter =>
    intro whole
    obtain ⟨behind, split, spelled⟩ := readWord_spells whole .no
    exact ⟨Bytes.ofText "alse", behind, split, rfl, isLetter ▸ spelled⟩
  case case7 same => exact fun _ => ⟨[], rest, rfl, rfl, same ▸ .listOpen⟩
  case case8 same => exact fun _ => ⟨[], rest, rfl, rfl, same ▸ .listClose⟩
  case case9 same => exact fun _ => ⟨[], rest, rfl, rfl, same ▸ .objectOpen⟩
  case case10 same => exact fun _ => ⟨[], rest, rfl, rfl, same ▸ .objectClose⟩
  case case11 same => exact fun _ => ⟨[], rest, rfl, rfl, same ▸ .comma⟩
  case case12 same => exact fun _ => ⟨[], rest, rfl, rfl, same ▸ .colon⟩

end ArtifactRegistry.Json
