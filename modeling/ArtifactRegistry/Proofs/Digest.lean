import ArtifactRegistry.Digest
import ArtifactRegistry.Proofs.Outcome
import ArtifactRegistry.Text.Blank

/-! # Digests of bytes are well formed

`validate_compute`: a digest that was computed satisfies the grammar, whatever the payload, since the
name of an algorithm with as many hexadecimal digits as it asks for does, `validate_of_digits`. A valid
digest consists of these two parts, and they decide the order of digests.
-/

namespace ArtifactRegistry

namespace Text

theorem splitFirst?_ofList_append_cons {separator : Char} {before : List Char}
    (absent : separator ∉ before) (after : List Char) :
    splitFirst? separator (String.ofList (before ++ separator :: after)) =
      some (String.ofList before, String.ofList after) := by
  have passed : ∀ c ∈ before, (decide (c ≠ separator)) = true := by
    intro c member
    apply decide_eq_true
    intro same
    exact absent (same ▸ member)
  simp only [splitFirst?, String.toList_ofList, List.dropWhile_append_of_pos passed,
    List.takeWhile_append_of_pos passed]
  simp

theorem splitFirst?_eq_some {separator : Char} {text before after : String}
    (cut : splitFirst? separator text = some (before, after)) :
    text.toList = before.toList ++ separator :: after.toList := by
  rw [splitFirst?] at cut
  split at cut
  · cases cut
  next c rest left =>
  cases cut
  have stop : c = separator := by
    have kept : text.toList.dropWhile (fun c => decide (c ≠ separator)) ≠ [] := by
      rw [left]
      exact List.cons_ne_nil c rest
    have head := List.head_dropWhile_not (fun c => decide (c ≠ separator)) kept
    simp only [left, List.head_cons, decide_eq_false_iff_not] at head
    exact Decidable.not_not.mp head
  rw [String.toList_ofList, String.toList_ofList, ← stop, ← left]
  subst stop
  exact List.takeWhile_append_dropWhile.symm

/-- A text of ASCII characters has as many bytes as characters. -/
theorem utf8ByteSize_ofList_of_ascii {characters : List Char}
    (ascii : ∀ c ∈ characters, c.toNat < 128) :
    (String.ofList characters).utf8ByteSize = characters.length := by
  induction characters with
  | nil => rfl
  | cons c rest ih =>
    obtain ⟨first, others⟩ := List.forall_mem_cons.mp ascii
    have small : c.utf8Size = 1 := by
      rw [Char.utf8Size_eq_one_iff, UInt32.le_iff_toNat_le]
      exact Nat.le_of_lt_succ first
    rw [String.ofList_cons, String.utf8ByteSize_append, String.utf8ByteSize_singleton, small,
      ih others, List.length_cons, Nat.add_comm]

/-- A text without white space stays as it is. -/
theorem trim_of_no_blanks {text : String} (plain : ∀ c ∈ text.toList, isBlank c = false) :
    trim text = text := by
  have keep (characters : List Char) (plain : ∀ c ∈ characters, isBlank c = false) :
      characters.dropWhile isBlank = characters := by
    cases characters with
    | nil => rfl
    | cons c rest => rw [List.dropWhile_cons_of_neg (by simp [plain c List.mem_cons_self])]
  rw [trim, keep _ plain, keep _ fun c member => plain c (List.mem_reverse.mp member),
    List.reverse_reverse, String.ofList_toList]

end Text

namespace Digest

/-- A digest that satisfies the grammar. -/
def IsValid (digest : Digest) : Prop := ∃ algorithm, digest.validate = .ok algorithm

theorem text_inj {a b : Digest} : a.text = b.text ↔ a = b := by
  cases a
  cases b
  simp

/-- A digest that satisfies the grammar consists of the name of its algorithm and hexadecimal digits. -/
theorem validate_eq_ok {digest : Digest} {algorithm : Algorithm}
    (valid : digest.validate = .ok algorithm) :
    digest.text.toList = algorithm.name.toList ++ ':' :: digest.hex.toList ∧
      ∀ c ∈ digest.hex.toList, isLowerHex c = true := by
  rw [validate] at valid
  split at valid
  · cases valid
  split at valid
  · cases valid
  next name hex cut =>
  have hex_eq : digest.hex = hex := by rw [Digest.hex, cut]
  split at valid
  · cases valid
  next found named =>
  split at valid
  · cases valid
  split at valid
  · next lower =>
    cases valid
    have name_eq : algorithm.name = name := by simpa using List.find?_some named
    rw [hex_eq, name_eq]
    exact ⟨Text.splitFirst?_eq_some cut, List.all_eq_true.mp lower⟩
  · cases valid

/-- The hexadecimal part is as long as the hash. -/
theorem utf8ByteSize_hex {digest : Digest} {algorithm : Algorithm}
    (valid : digest.validate = .ok algorithm) :
    digest.hex.utf8ByteSize = algorithm.hexLength := by
  rw [validate] at valid
  split at valid
  · cases valid
  split at valid
  · cases valid
  next name hex cut =>
  rw [Digest.hex, cut]
  split at valid
  · cases valid
  split at valid
  · cases valid
  next size =>
  split at valid
  · cases valid
    simpa using size
  · cases valid

/-- The algorithm and the hexadecimal part tell valid digests apart. -/
theorem eq_of_parts {digest other : Digest} {algorithm algorithm' : Algorithm}
    (valid : digest.validate = .ok algorithm) (valid' : other.validate = .ok algorithm')
    (name_eq : algorithm.name = algorithm'.name) (hex_eq : digest.hex = other.hex) :
    digest = other := by
  rw [← text_inj, ← String.toList_inj, (validate_eq_ok valid).1, (validate_eq_ok valid').1, name_eq,
    hex_eq]

/-! ### Order -/

/-- What is less than something of its length stays less, whatever follows. -/
theorem append_lt_append {before before' : List Char} (length_eq : before.length = before'.length)
    (less : before < before') (after after' : List Char) : before ++ after < before' ++ after' := by
  induction before generalizing before' with
  | nil =>
    rw [List.eq_nil_of_length_eq_zero length_eq.symm] at less
    exact absurd less (List.lt_irrefl [])
  | cons c rest ih =>
    cases before' with
    | nil => cases length_eq
    | cons c' rest' =>
      rw [List.cons_lt_cons_iff] at less
      rw [List.cons_append, List.cons_append, List.cons_lt_cons_iff]
      exact less.imp_right (And.imp_right (ih (Nat.succ.inj length_eq)))

theorem length_name (algorithm : Algorithm) : algorithm.name.toList.length = 6 := by
  cases algorithm <;> rfl

/-- Digests of different algorithms are in the order of the names of the algorithms. -/
theorem text_lt_of_name_lt {digest other : Digest} {algorithm algorithm' : Algorithm}
    (valid : digest.validate = .ok algorithm) (valid' : other.validate = .ok algorithm')
    (less : algorithm.name < algorithm'.name) : digest.text < other.text := by
  rw [String.lt_iff, (validate_eq_ok valid).1, (validate_eq_ok valid').1]
  apply append_lt_append _ (String.lt_iff.mp less)
  rw [length_name, length_name]

/-- Digests of one algorithm are in the order of their hexadecimal parts. -/
theorem text_lt_of_hex_lt {digest other : Digest} {algorithm algorithm' : Algorithm}
    (valid : digest.validate = .ok algorithm) (valid' : other.validate = .ok algorithm')
    (name_eq : algorithm.name = algorithm'.name) (less : digest.hex < other.hex) :
    digest.text < other.text := by
  rw [String.lt_iff, (validate_eq_ok valid).1, (validate_eq_ok valid').1, name_eq]
  exact List.append_left_lt (List.cons_lt_cons_iff.mpr (.inr ⟨rfl, String.lt_iff.mp less⟩))

/-- Strictly ascending as texts. -/
def Ascending (digests : List Digest) : Prop := digests.Pairwise fun a b => a.text < b.text

theorem Ascending.nodup {digests : List Digest} (ascending : Ascending digests) :
    digests.Nodup := by
  apply ascending.imp
  rintro digest _ before rfl
  exact String.lt_irrefl digest.text before

/-- In ascending order, the members determine the list. -/
theorem Ascending.eq_of_mem_iff {digests others : List Digest} (ascending : Ascending digests)
    (ascending' : Ascending others) (same : ∀ digest, digest ∈ digests ↔ digest ∈ others) :
    digests = others := by
  apply List.Perm.eq_of_pairwise _ ascending ascending'
    ((List.perm_ext_iff_of_nodup ascending.nodup ascending'.nodup).mpr same)
  intro a b _ _ before after
  exact absurd after (String.lt_asymm before)

theorem isLowerHex_hexDigit : ∀ value < 16, isLowerHex (Bytes.hexDigit value) = true := by
  decide

theorem isLowerHex_of_mem_toHex {bytes : Bytes} {c : Char} (member : c ∈ Bytes.toHex bytes) :
    isLowerHex c = true := by
  obtain ⟨byte, -, digit⟩ := List.mem_flatMap.mp member
  have small := byte.toNat_lt
  rcases List.mem_cons.mp digit with rfl | digit
  · exact isLowerHex_hexDigit _ (by omega)
  · rw [List.mem_singleton.mp digit]
    exact isLowerHex_hexDigit _ (by omega)

theorem toNat_lt_of_isLowerHex {c : Char} (lower : isLowerHex c = true) : c.toNat < 128 := by
  simp only [isLowerHex, Bool.or_eq_true, Bool.and_eq_true, decide_eq_true_eq, Char.le_def,
    UInt32.le_iff_toNat_le] at lower
  simp only [Char.toNat]
  rcases lower with ⟨-, below⟩ | ⟨-, below⟩
  · exact Nat.lt_of_le_of_lt below (by decide)
  · exact Nat.lt_of_le_of_lt below (by decide)

theorem isBlank_of_isLowerHex {c : Char} (lower : isLowerHex c = true) :
    Text.isBlank c = false := by
  simp only [isLowerHex, Bool.or_eq_true, Bool.and_eq_true, decide_eq_true_eq, Char.le_def,
    UInt32.le_iff_toNat_le] at lower
  have code : (48 ≤ c.toNat ∧ c.toNat ≤ 57) ∨ (97 ≤ c.toNat ∧ c.toNat ≤ 102) := lower
  simp only [Text.isBlank, Bool.or_eq_false_iff, Bool.and_eq_false_iff, decide_eq_false_iff_not]
  omega

/-- A valid digest is read as it is written, white space around it or not. -/
theorem parse_trim {digest : Digest} {algorithm : Algorithm}
    (valid : digest.validate = .ok algorithm) : parse (Text.trim digest.text) = .ok digest := by
  obtain ⟨text_eq, lower⟩ := validate_eq_ok valid
  have plain : ∀ c ∈ digest.text.toList, Text.isBlank c = false := by
    rw [text_eq, List.forall_mem_append, List.forall_mem_cons]
    refine ⟨?_, by decide, fun c member => isBlank_of_isLowerHex (lower c member)⟩
    cases algorithm <;> simp [Algorithm.name, Text.isBlank]
  rw [Text.trim_of_no_blanks plain, parse]
  change (validate digest).map _ = _
  rw [valid]
  rfl

variable (algorithm : Algorithm)

theorem splitFirst?_digits (digits : List Char) :
    Text.splitFirst? ':' (String.ofList (algorithm.name.toList ++ ':' :: digits)) =
      some (algorithm.name, String.ofList digits) := by
  rw [Text.splitFirst?_ofList_append_cons (by cases algorithm <;> decide), String.ofList_toList]

/-- The name of an algorithm with as many hexadecimal digits as its hashes have satisfies the grammar. -/
theorem validate_of_digits {digits : List Char} (lower : ∀ c ∈ digits, isLowerHex c = true)
    (length_eq : digits.length = algorithm.hexLength) :
    validate ⟨String.ofList (algorithm.name.toList ++ ':' :: digits)⟩ = .ok algorithm := by
  have cut := splitFirst?_digits algorithm digits
  have size : (String.ofList digits).utf8ByteSize = algorithm.hexLength := by
    rw [Text.utf8ByteSize_ofList_of_ascii fun c member => toNat_lt_of_isLowerHex (lower c member),
      length_eq]
  have nonempty : isEmpty ⟨String.ofList (algorithm.name.toList ++ ':' :: digits)⟩ = false := by
    apply decide_eq_false
    intro (same : String.ofList _ = "")
    rw [same] at cut
    cases cut
  simp only [validate, nonempty, Bool.false_eq_true, if_false, cut, Algorithm.ofName?_name, size,
    ne_eq, not_true, String.toList_ofList, List.all_eq_true.mpr lower, if_true]

variable (payload : Bytes)

/-- A computed digest satisfies the grammar. -/
theorem validate_compute : (compute algorithm payload).validate = .ok algorithm := by
  refine validate_of_digits algorithm (fun c => isLowerHex_of_mem_toHex) ?_
  rw [Bytes.length_toHex, algorithm.length_hash]

theorem isValid_ofBytes : (ofBytes payload).IsValid := ⟨.sha256, validate_compute .sha256 payload⟩

theorem validate_ofBytes : (ofBytes payload).validate = .ok .sha256 :=
  validate_compute .sha256 payload

theorem verifies_ofBytes : (ofBytes payload).verifies payload = .ok true := by
  rw [verifies, validate_ofBytes]
  exact congrArg Except.ok (decide_eq_true rfl)

/-- A payload belongs to a digest exactly when the digest's own algorithm computes it from the
payload. -/
theorem verifies_eq_true_iff {digest : Digest} {payload : Bytes} :
    digest.verifies payload = .ok true ↔
      ∃ algorithm, digest.validate = .ok algorithm ∧ compute algorithm payload = digest := by
  rw [verifies, map_eq_ok_iff]
  exact exists_congr fun algorithm => and_congr_right fun _ => decide_eq_true_iff

/-- Payloads that belong to one computed digest have the same digest. -/
theorem ofBytes_eq_iff {payload other : Bytes} :
    ofBytes other = ofBytes payload ↔ (ofBytes payload).verifies other = .ok true := by
  rw [verifies_eq_true_iff, validate_ofBytes]
  constructor
  · exact fun same => ⟨.sha256, rfl, same⟩
  · rintro ⟨algorithm, ⟨⟩, same⟩
    exact same

end Digest

end ArtifactRegistry
