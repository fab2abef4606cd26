import ArtifactRegistry.Proofs.Decimal
import ArtifactRegistry.Proofs.Outcome
import ArtifactRegistry.Proofs.Timestamp.Calendar
import ArtifactRegistry.Timestamp

/-! # Timestamps read, written and read again

Whatever the offset and the fraction, what is read is an instant whose leap seconds end a minute,
`Regular`, because offsets are whole minutes. Such an instant is written in parts that make it up,
`ofParts_parts`, and every part is read as it was written, as long as the year has four digits. Any
other year is written with a sign, which no year starts with. So writing loses nothing exactly in the
years with four digits: `parse_toText`, and `toText_faithful` for all that can be read.
-/

namespace ArtifactRegistry.Timestamp

open TimestampError (Reason)
open Decimal (places digitByte)

/-! ## Numbers -/

theorem isDigit_digitByte : ∀ d < 10, isDigit (digitByte d) = true := by
  decide

theorem toNat_digitByte : ∀ d < 10, (digitByte d).toNat - 48 = d := by
  decide

theorem map_toNat_digitByte {digits : List Nat} (small : ∀ d ∈ digits, d < 10) :
    (digits.map digitByte).map (fun c => c.toNat - 48) = digits := by
  rw [List.map_map]
  exact (List.map_congr_left fun d member => toNat_digitByte d (small d member)).trans
    (List.map_id digits)

theorem number_places (width n : Nat) : number ((places width n).map digitByte) = .ok n := by
  have digits : ((places width n).map digitByte).all (fun c => 0x30 ≤ c && c ≤ 0x39) = true := by
    rw [List.all_map, List.all_eq_true]
    exact fun d member => isDigit_digitByte d (Decimal.places_lt width n d member)
  rw [number, if_pos digits, map_toNat_digitByte (Decimal.places_lt width n), Decimal.ofDigits_places]

/-- A padded number is read as it was written. -/
theorem number_padded (width n : Nat) : number (Bytes.ofText (Decimal.padded width n)) = .ok n := by
  rw [Decimal.ofText_padded]
  exact number_places width n

theorem exists_two {n : Nat} (small : n < 100) :
    ∃ a b, Bytes.ofText (Decimal.padded 2 n) = [a, b] ∧ number [a, b] = .ok n := by
  obtain ⟨a, b, written⟩ := List.length_eq_two.mp (Decimal.length_padded (by decide) small)
  exact ⟨a, b, written, written ▸ number_padded 2 n⟩

theorem exists_four {n : Nat} (small : n < 10000) :
    ∃ a b c d, Bytes.ofText (Decimal.padded 4 n) = [a, b, c, d] ∧ number [a, b, c, d] = .ok n := by
  have length : (Bytes.ofText (Decimal.padded 4 n)).length = 4 :=
    Decimal.length_padded (by decide) small
  obtain ⟨a, rest, written⟩ := List.exists_cons_of_length_eq_add_one length
  rw [written, List.length_cons, Nat.add_right_cancel_iff, List.length_eq_three] at length
  obtain ⟨b, c, d, rfl⟩ := length
  exact ⟨a, b, c, d, written, written ▸ number_padded 4 n⟩

/-! ## Fields -/

theorem readDate_fields {y₁ y₂ y₃ y₄ m₁ m₂ d₁ d₂ : UInt8} {year month day : Nat} (rest : Bytes)
    (readYear : number [y₁, y₂, y₃, y₄] = .ok year) (readMonth : number [m₁, m₂] = .ok month)
    (readDay : number [d₁, d₂] = .ok day)
    (valid : (⟨year, month, day⟩ : Calendar.Date).isValid = true) :
    readDate (y₁ :: y₂ :: y₃ :: y₄ :: 0x2d :: m₁ :: m₂ :: 0x2d :: d₁ :: d₂ :: rest) =
      .ok ⟨year, month, day⟩ := by
  simp only [readDate, List.take, List.drop, readYear, readMonth, readDay, expect]
  exact if_pos valid

theorem readClock_fields {h₁ h₂ m₁ m₂ s₁ s₂ : UInt8} {hour minute second : Nat} (rest : Bytes)
    (readHour : number [h₁, h₂] = .ok hour) (readMinute : number [m₁, m₂] = .ok minute)
    (readSecond : number [s₁, s₂] = .ok second) :
    readClock (0x54 :: h₁ :: h₂ :: 0x3a :: m₁ :: m₂ :: 0x3a :: s₁ :: s₂ :: rest) =
      .ok (hour, minute, second) := by
  simp only [readClock, List.take, List.drop, readHour, readMinute, readSecond, expect]
  rfl

/-- A fraction of up to nine places, in nanoseconds. -/
theorem readFraction_places {width n : Nat} (some_place : 0 < width) (fits : width ≤ 9)
    (small : n < 10 ^ width) :
    readFraction (0x2e :: (places width n).map digitByte ++ [0x5a]) =
      .ok (n * Nat.pow 10 (9 - width), [0x5a]) := by
  have length := Decimal.length_places some_place small
  have taken : ((places width n).map digitByte ++ [0x5a]).takeWhile isDigit =
      (places width n).map digitByte := by
    rw [List.takeWhile_append_of_pos]
    · rw [List.takeWhile_cons_of_neg (by decide), List.append_nil]
    · intro c member
      obtain ⟨d, inside, rfl⟩ := List.mem_map.mp member
      exact isDigit_digitByte d (Decimal.places_lt width n d inside)
  have nonempty : (places width n).map digitByte ≠ [] := by
    intro empty
    rw [← List.length_map digitByte, empty] at length
    simp only [List.length_nil] at length
    omega
  rw [List.cons_append, readFraction, taken, if_neg (by simp), if_neg nonempty]
  have kept : ((places width n).map digitByte).take 9 = (places width n).map digitByte :=
    List.take_of_length_le (by rw [List.length_map]; omega)
  simp only [kept, map_toNat_digitByte (Decimal.places_lt width n), Decimal.ofDigits_places,
    List.length_map, length]
  rw [List.drop_left' (by rw [List.length_map, length])]

theorem readFraction_fractionText {nanos : Nat} (small : nanos < 1000000000) :
    readFraction (Bytes.ofText (fractionText nanos) ++ [0x5a]) = .ok (nanos, [0x5a]) := by
  have point (width n : Nat) : Bytes.ofText ("." ++ Decimal.padded width n) =
      0x2e :: (places width n).map digitByte := by
    rw [Bytes.ofText_append, Decimal.ofText_padded]
    rfl
  rw [fractionText]
  split
  · next none => rw [none]; rfl
  split
  · next whole =>
    rw [point, readFraction_places (by decide) (by decide) (by omega)]
    congr 2
    change nanos / 1000000 * 1000000 = nanos
    omega
  split
  · next whole =>
    rw [point, readFraction_places (by decide) (by decide) (by omega)]
    congr 2
    change nanos / 1000 * 1000 = nanos
    omega
  · rw [point, readFraction_places (by decide) (by decide) small]
    congr 2
    exact Nat.mul_one nanos

/-! ## Texts -/

/-- A text is read when all of its parts are. -/
theorem read_eq_ok_iff {text : Bytes} {t : Timestamp} : read text = .ok t ↔
    ∃ date hour minute second nanos rest offset, 19 ≤ text.length ∧ readDate text = .ok date ∧
      readClock (text.drop 10) = .ok (hour, minute, second) ∧
      readFraction (text.drop 19) = .ok (nanos, rest) ∧ (hour ≤ 23 ∧ minute ≤ 59 ∧ second ≤ 60) ∧
      readOffset rest = .ok offset ∧ ofParts date hour minute second nanos offset = t := by
  rw [read]
  by_cases short : text.length < 19
  · rw [if_pos short]
    constructor
    · rintro ⟨⟩
    · rintro ⟨_, _, _, _, _, _, _, long, -⟩
      omega
  · rw [if_neg short]
    simp only [bind_eq_ok_iff, Prod.exists]
    constructor
    · rintro ⟨date, readsDate, hour, minute, second, readsClock, nanos, rest, readsFraction, ran⟩
      split at ran
      · next inDay =>
        obtain ⟨offset, readsOffset, ⟨⟩⟩ := bind_eq_ok_iff.mp ran
        exact ⟨date, hour, minute, second, nanos, rest, offset, Nat.not_lt.mp short, readsDate,
          readsClock, readsFraction, inDay, readsOffset, rfl⟩
      · cases ran
    · rintro ⟨date, hour, minute, second, nanos, rest, offset, -, readsDate, readsClock,
        readsFraction, inDay, readsOffset, rfl⟩
      refine ⟨date, readsDate, hour, minute, second, readsClock, nanos, rest, readsFraction, ?_⟩
      rw [if_pos inDay, readsOffset]
      rfl

/-! ## What is read -/

theorem toNat_sub_lt_of_isDigit {c : UInt8} (digit : isDigit c = true) : c.toNat - 48 < 10 := by
  simp only [isDigit, Bool.and_eq_true, decide_eq_true_eq, UInt8.le_iff_toNat_le] at digit
  have below : c.toNat ≤ 57 := digit.2
  omega

theorem nanos_lt_of_readFraction {text rest : Bytes} {nanos : Nat}
    (reads : readFraction text = .ok (nanos, rest)) : nanos < 1000000000 := by
  rw [readFraction.eq_def] at reads
  split at reads
  · next fraction =>
    extract_lets digits kept at reads
    split at reads
    · cases reads
    split at reads
    · cases reads
    cases reads
    have short : kept.length ≤ 9 := List.length_take_le 9 digits
    have value : Decimal.ofDigits (kept.map fun c => c.toNat - 48) < 10 ^ kept.length := by
      rw [← List.length_map fun c : UInt8 => c.toNat - 48]
      apply Decimal.ofDigits_lt
      intro d member
      obtain ⟨c, inside, rfl⟩ := List.mem_map.mp member
      exact toNat_sub_lt_of_isDigit
        (List.all_eq_true.mp List.all_takeWhile c (List.mem_of_mem_take inside))
    calc Decimal.ofDigits (kept.map fun c => c.toNat - 48) * 10 ^ (9 - kept.length)
      _ < 10 ^ kept.length * 10 ^ (9 - kept.length) :=
        Nat.mul_lt_mul_of_pos_right value (Nat.pow_pos (by decide))
      _ = 1000000000 := by rw [← Nat.pow_add, Nat.add_sub_cancel' short]
  · cases reads
    decide

theorem readSign_eq_ok {text rest : Bytes} {sign : Int} (reads : readSign text = .ok (sign, rest)) :
    sign = 1 ∨ sign = -1 := by
  rw [readSign.eq_def] at reads
  split at reads <;> cases reads <;> decide

/-- Offsets are whole minutes. -/
theorem offset_mod_of_readOffset {text : Bytes} {offset : Int} (reads : readOffset text = .ok offset) :
    offset % 60 = 0 := by
  -- What is left to check behind an offset does not change it.
  have checked {found : Int} {rest : Bytes} (ran : (if rest ≠ [] then throw .trailing
      else if found.natAbs < 86400 then return found else throw .outOfRange : Except Reason Int) =
        .ok offset) : found = offset := by
    split at ran
    · cases ran
    split at ran
    · cases ran
      rfl
    · cases ran
  rw [readOffset.eq_def] at reads
  split at reads
  · rw [← checked reads, Int.zero_emod]
  · rw [← checked reads, Int.zero_emod]
  · obtain ⟨⟨sign, afterSign⟩, readsSign, ran⟩ := bind_eq_ok_iff.mp reads
    obtain ⟨⟨hours, afterHours⟩, -, ran⟩ := bind_eq_ok_iff.mp ran
    obtain ⟨_, -, ran⟩ := bind_eq_ok_iff.mp ran
    obtain ⟨⟨minutes, afterMinutes⟩, -, ran⟩ := bind_eq_ok_iff.mp ran
    dsimp only at ran
    split at ran
    · have := checked ran
      rcases readSign_eq_ok readsSign with rfl | rfl <;> omega
    · cases ran

/-- Nanoseconds are less than a second, or within a leap second, which ends a minute. -/
structure Regular (t : Timestamp) : Prop where
  nanos_lt : t.nanos < 2000000000
  leap : 1000000000 ≤ t.nanos → t.seconds % 60 = 59

theorem regular_of_read {text : Bytes} {t : Timestamp} (reads : read text = .ok t) : t.Regular := by
  obtain ⟨date, hour, minute, second, nanos, rest, offset, -, -, -, readsFraction, ⟨-, -, inMinute⟩,
    readsOffset, rfl⟩ := read_eq_ok_iff.mp reads
  have small := nanos_lt_of_readFraction readsFraction
  have whole := offset_mod_of_readOffset readsOffset
  constructor
  · simp only [ofParts]
    split <;> omega
  · intro leap
    simp only [ofParts] at leap ⊢
    split at leap
    · next last =>
      rw [if_pos last]
      omega
    · omega

/-! ## What is written -/

/-- The date of an instant in universal time. -/
def date (t : Timestamp) : Calendar.Date := .ofDayNumber (t.seconds / 86400)

/-- The second of the day, leap seconds not counted. -/
def clock (t : Timestamp) : Nat := (t.seconds % 86400).toNat

/-- The second of the minute, which may be a leap second. -/
def second (t : Timestamp) : Nat := t.clock % 60 + if 1000000000 ≤ t.nanos then 1 else 0

/-- The nanoseconds of the second. -/
def fraction (t : Timestamp) : Nat :=
  if 1000000000 ≤ t.nanos then t.nanos - 1000000000 else t.nanos

theorem ofText_toText (t : Timestamp) : Bytes.ofText t.toText =
    Bytes.ofText (yearText t.date.year) ++ (0x2d :: Bytes.ofText (Decimal.padded 2 t.date.month)) ++
      (0x2d :: Bytes.ofText (Decimal.padded 2 t.date.day)) ++
      (0x54 :: Bytes.ofText (Decimal.padded 2 (t.clock / 3600))) ++
      (0x3a :: Bytes.ofText (Decimal.padded 2 (t.clock / 60 % 60))) ++
      (0x3a :: Bytes.ofText (Decimal.padded 2 t.second)) ++
      (Bytes.ofText (fractionText t.fraction) ++ [0x5a]) := by
  have dash : Bytes.ofText "-" = [0x2d] := by decide
  have letterT : Bytes.ofText "T" = [0x54] := by decide
  have colon : Bytes.ofText ":" = [0x3a] := by decide
  have letterZ : Bytes.ofText "Z" = [0x5a] := by decide
  simp [toText, Bytes.ofText_append, toString, dash, letterT, colon, letterZ,
    date, clock, second, fraction]

/-- The parts that are written make up the instant. -/
theorem ofParts_parts {t : Timestamp} (regular : t.Regular) :
    ofParts t.date (t.clock / 3600) (t.clock / 60 % 60) t.second t.fraction 0 = t := by
  have day : t.date.dayNumber = t.seconds / 86400 := Calendar.dayNumber_ofDayNumber _
  have clock : (t.clock : Int) = t.seconds % 86400 := by
    rw [Timestamp.clock]
    omega
  have leap := regular.leap
  rw [second, fraction, ofParts, day]
  change _ = (⟨t.seconds, t.nanos⟩ : Timestamp)
  by_cases leaping : 1000000000 ≤ t.nanos
  · have last := leap leaping
    have second_eq : t.clock % 60 + 1 = 60 := by omega
    simp only [leaping, if_true, second_eq, Timestamp.mk.injEq]
    omega
  · have notLast : t.clock % 60 + 0 ≠ 60 := by omega
    simp only [leaping, if_false, notLast, Timestamp.mk.injEq, and_true]
    omega

theorem date_bounds (t : Timestamp) : t.date.month < 100 ∧ t.date.day < 100 := by
  have valid := Calendar.isValid_ofDayNumber (t.seconds / 86400)
  simp only [Calendar.Date.isValid, Bool.and_eq_true, decide_eq_true_eq] at valid
  have days := Calendar.daysInMonth_le (Calendar.Date.ofDayNumber (t.seconds / 86400)).year
    (Calendar.Date.ofDayNumber (t.seconds / 86400)).month
  rw [date]
  omega

/-- An instant is read as it was written, when its year has four digits. -/
theorem read_toText {t : Timestamp} (regular : t.Regular) (begun : 0 ≤ t.date.year)
    (short : t.date.year ≤ 9999) : read (Bytes.ofText t.toText) = .ok t := by
  have valid : t.date.isValid = true := Calendar.isValid_ofDayNumber _
  have clock_lt : t.clock < 86400 := by
    rw [clock]
    omega
  have second_le : t.second ≤ 60 := by
    rw [second]
    split <;> omega
  have fraction_lt : t.fraction < 1000000000 := by
    have := regular.nanos_lt
    rw [fraction]
    split <;> omega
  obtain ⟨y₁, y₂, y₃, y₄, year, readYear⟩ := exists_four (show t.date.year.toNat < 10000 by omega)
  obtain ⟨m₁, m₂, month, readMonth⟩ := exists_two t.date_bounds.1
  obtain ⟨d₁, d₂, day, readDay⟩ := exists_two t.date_bounds.2
  obtain ⟨h₁, h₂, hour, readHour⟩ := exists_two (show t.clock / 3600 < 100 by omega)
  obtain ⟨n₁, n₂, minute, readMinute⟩ := exists_two (show t.clock / 60 % 60 < 100 by omega)
  obtain ⟨s₁, s₂, second, readSecond⟩ := exists_two (show t.second < 100 by omega)
  rw [ofText_toText, yearText, if_pos ⟨begun, short⟩, year, month, day, hour, minute, second]
  have date_eq : (⟨t.date.year.toNat, t.date.month, t.date.day⟩ : Calendar.Date) = t.date := by
    rw [Int.toNat_of_nonneg begun]
  rw [read_eq_ok_iff]
  refine ⟨t.date, _, _, _, t.fraction, [0x5a], 0, ?_, ?_, readClock_fields _ readHour readMinute readSecond,
    readFraction_fractionText fraction_lt, ⟨by omega, by omega, second_le⟩, rfl, ofParts_parts regular⟩
  · simp only [List.length_append, List.length_cons]
    omega
  · rw [← date_eq] at valid
    exact (readDate_fields _ readYear readMonth readDay valid).trans (congrArg _ date_eq)

/-- A text that starts with a sign has no year. -/
theorem read_of_sign {sign : UInt8} {rest : Bytes} (notDigit : isDigit sign = false)
    (long : 18 ≤ rest.length) : read (sign :: rest) = .error .invalid := by
  have unread : readDate (sign :: rest) = .error .invalid := by
    have noYear : number ((sign :: rest).take 4) = .error .invalid := by
      rw [List.take_succ_cons, number, List.all_cons]
      change (if (isDigit sign && _) = true then _ else _) = _
      rw [notDigit, Bool.false_and, if_neg Bool.false_ne_true]
    rw [readDate, noYear]
    rfl
  rw [read, if_neg (by rw [List.length_cons]; omega), unread]
  rfl

/-- A year that does not have four digits is written with a sign, and not read. -/
theorem read_toText_of_year {t : Timestamp} (outside : ¬ (0 ≤ t.date.year ∧ t.date.year ≤ 9999)) :
    read (Bytes.ofText t.toText) = .error .invalid := by
  obtain ⟨sign, notDigit, signed⟩ : ∃ sign, isDigit sign = false ∧
      Bytes.ofText (yearText t.date.year) =
        sign :: Bytes.ofText (Decimal.padded 4 t.date.year.natAbs) := by
    rw [yearText, if_neg outside, Bytes.ofText_append]
    split
    · exact ⟨0x2d, rfl, rfl⟩
    · exact ⟨0x2b, rfl, rfl⟩
  rw [ofText_toText, signed]
  simp only [List.cons_append]
  apply read_of_sign notDigit
  have year := Decimal.le_length_padded 4 t.date.year.natAbs
  have two := Decimal.le_length_padded 2
  have month := two t.date.month
  have day := two t.date.day
  have hour := two (t.clock / 3600)
  have minute := two (t.clock / 60 % 60)
  have second := two t.second
  simp only [List.length_append, List.length_cons]
  omega

/-! ## Round trips -/

/-- The year of an instant in universal time has four digits. -/
def HasFourDigitYear (t : Timestamp) : Prop := 0 ≤ t.date.year ∧ t.date.year ≤ 9999

instance (t : Timestamp) : Decidable t.HasFourDigitYear :=
  inferInstanceAs (Decidable (0 ≤ t.date.year ∧ t.date.year ≤ 9999))

theorem parse_toText {t : Timestamp} (regular : t.Regular) : parse t.toText =
    if t.HasFourDigitYear then .ok t else .error ⟨t.toText, .invalid⟩ := by
  rw [parse]
  split
  · next years => rw [read_toText regular years.1 years.2]; rfl
  · next outside => rw [read_toText_of_year outside]; rfl

theorem compare_eq_iff {t t' : Timestamp} : compare t t' = .eq ↔ t = t' := by
  obtain ⟨seconds, nanos⟩ := t
  obtain ⟨seconds', nanos'⟩ := t'
  simp [compare, Ordering.then_eq_eq]

/-- The date of an instant is the date that exists for its day. -/
theorem eq_date_iff {t : Timestamp} {date : Calendar.Date} :
    date = t.date ↔ date.isValid = true ∧ date.dayNumber = t.seconds / 86400 := by
  constructor
  · rintro rfl
    exact ⟨Calendar.isValid_ofDayNumber _, Calendar.dayNumber_ofDayNumber _⟩
  · rintro ⟨valid, same⟩
    rw [Timestamp.date, ← same, Calendar.ofDayNumber_dayNumber valid]

theorem regular_of_parse {text : String} {t : Timestamp} (parsed : parse text = .ok t) : t.Regular :=
  regular_of_read (mapError_eq_ok_iff.mp parsed)

/-- An instant that was read is written as a text of the same instant, to the nanosecond and leap
seconds included, when its year in universal time has four digits, and otherwise as a text that is
not a timestamp. With four digits, two instants are written alike exactly when they are the same. The
year is that of the one date that exists for the day of the instant. -/
theorem toText_faithful {text text' : String} {t t' : Timestamp} (parsed : parse text = .ok t)
    (parsed' : parse text' = .ok t') :
    (∀ date, date = t.date ↔ date.isValid = true ∧ date.dayNumber = t.seconds / 86400) ∧
      parse t.toText = (if t.HasFourDigitYear then .ok t else .error ⟨t.toText, .invalid⟩) ∧
      (t.HasFourDigitYear → t'.HasFourDigitYear →
        (t.toText = t'.toText ↔ compare t t' = .eq)) := by
  have reread := parse_toText (regular_of_parse parsed)
  refine ⟨fun date => eq_date_iff, reread, fun years years' => ?_⟩
  have reread' := parse_toText (regular_of_parse parsed')
  rw [if_pos years] at reread
  rw [if_pos years'] at reread'
  rw [compare_eq_iff]
  constructor
  · intro same
    rw [same] at reread
    exact Except.ok.inj (reread.symm.trans reread')
  · rintro rfl
    rfl

/-- A leap second at the end of a year, which has begun elsewhere, is told from the second after it. -/
theorem toText_faithful_leap_second :
    let leap : Timestamp := ⟨1483228799, 1500000000⟩
    let next : Timestamp := ⟨1483228800, 500000000⟩
    parse "2017-01-01T05:29:60.5+05:30" = .ok leap ∧ parse "2017-01-01 00:00:00.5000z" = .ok next ∧
      leap.HasFourDigitYear ∧ next.HasFourDigitYear ∧
      parse leap.toText = .ok leap ∧ leap.toText ≠ next.toText := by
  intro leap next
  have parsed : parse "2017-01-01T05:29:60.5+05:30" = .ok leap := by decide +kernel
  have parsed' : parse "2017-01-01 00:00:00.5000z" = .ok next := by decide +kernel
  have years : leap.HasFourDigitYear := by decide +kernel
  have years' : next.HasFourDigitYear := by decide +kernel
  obtain ⟨-, reread, written⟩ := toText_faithful parsed parsed'
  rw [if_pos years] at reread
  refine ⟨parsed, parsed', years, years', reread, fun same => ?_⟩
  have equal := (written years years').mp same
  revert equal
  decide

/-- An offset can lead out of the years with four digits. -/
example : parse "0000-01-01T00:00:00+00:01" = .ok ⟨-62167219260, 0⟩ ∧
    (⟨-62167219260, 0⟩ : Timestamp).toText = "-0001-12-31T23:59:00Z" := by
  decide +kernel

end ArtifactRegistry.Timestamp
