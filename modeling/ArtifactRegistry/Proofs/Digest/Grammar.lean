import ArtifactRegistry.Proofs.Digest
import Mathlib.Data.String.Basic

/-! # The grammar of digests

A text is a digest exactly when it is the name of an algorithm, a colon, and as many lowercase
hexadecimal digits as the hashes of this algorithm have, `Written`. The digits are counted in bytes and
told by ranges of characters, and the name is what stands before the first colon, but no other text
gets through: `parse_eq_ok_iff`. Computed digests are written this way. As texts, valid digests are in
the order of their algorithms, and in the order of their digits where these are the same,
`compare_text`.
-/

namespace ArtifactRegistry

deriving instance Ord for Algorithm

/-- Algorithms are listed in the order of their names. -/
theorem Algorithm.compare_name (a b : Algorithm) : compare a.name b.name = compare a b := by
  cases a <;> cases b <;> decide

namespace Digest

/-! ## Accepted texts -/

/-- The name of an algorithm, a colon, and lowercase hexadecimal digits, as many as it takes. -/
def Written (text : String) : Prop :=
  ∃ name hex : String, text = name ++ ":" ++ hex ∧
    (name, hex.length) ∈ [("sha256", 64), ("sha384", 96), ("sha512", 128)] ∧
    ∀ c ∈ hex.toList, c ∈ "0123456789abcdef".toList

theorem isLowerHex_iff {c : Char} : isLowerHex c = true ↔ c ∈ "0123456789abcdef".toList := by
  constructor
  · intro lower
    have every : ∀ code < 128, isLowerHex (Char.ofNat code) = true →
        Char.ofNat code ∈ "0123456789abcdef".toList := by decide
    have digit := every c.toNat (toNat_lt_of_isLowerHex lower)
    rw [Char.ofNat_toNat] at digit
    exact digit lower
  · intro digit
    have every : "0123456789abcdef".toList.all isLowerHex = true := by decide
    exact List.all_eq_true.mp every c digit

/-- The parts of a written digest are those of a valid one. -/
theorem written_iff {text : String} :
    Written text ↔ ∃ algorithm, (⟨text⟩ : Digest).validate = .ok algorithm := by
  constructor
  · rintro ⟨name, hex, rfl, listed, digits⟩
    have named : ∃ algorithm : Algorithm,
        algorithm.name = name ∧ algorithm.hexLength = hex.length := by
      simp only [List.mem_cons, Prod.mk.injEq, List.not_mem_nil, or_false] at listed
      rcases listed with ⟨rfl, size⟩ | ⟨rfl, size⟩ | ⟨rfl, size⟩
      · exact ⟨.sha256, rfl, size.symm⟩
      · exact ⟨.sha384, rfl, size.symm⟩
      · exact ⟨.sha512, rfl, size.symm⟩
    obtain ⟨algorithm, rfl, size⟩ := named
    have parts : algorithm.name ++ ":" ++ hex =
        String.ofList (algorithm.name.toList ++ ':' :: hex.toList) := by
      rw [← String.toList_inj]
      simp
    refine ⟨algorithm, ?_⟩
    rw [parts]
    exact validate_of_digits algorithm (fun c member => isLowerHex_iff.mpr (digits c member))
      size.symm
  · rintro ⟨algorithm, valid⟩
    obtain ⟨parts, lower⟩ := validate_eq_ok valid
    refine ⟨algorithm.name, hex ⟨text⟩, ?_, ?_, fun c member => isLowerHex_iff.mp (lower c member)⟩
    · rw [← String.toList_inj, parts]
      simp
    · -- The bytes were counted, which are as many as the characters.
      have size := utf8ByteSize_hex valid
      rw [← String.ofList_toList (s := hex ⟨text⟩), Text.utf8ByteSize_ofList_of_ascii
        fun c member => toNat_lt_of_isLowerHex (lower c member), String.length_toList] at size
      rw [size]
      cases algorithm <;> decide

theorem parse_eq_ok_iff {text : String} {digest : Digest} :
    parse text = .ok digest ↔ digest = ⟨text⟩ ∧ Written text := by
  rw [parse, map_eq_ok_iff, written_iff]
  constructor
  · rintro ⟨algorithm, valid, rfl⟩
    exact ⟨rfl, algorithm, valid⟩
  · rintro ⟨rfl, algorithm, valid⟩
    exact ⟨algorithm, valid, rfl⟩

/-! ## Computed digests -/

/-- A payload belongs to its digest, whatever the algorithm. -/
theorem verifies_compute (algorithm : Algorithm) (payload : Bytes) :
    (compute algorithm payload).verifies payload = .ok true :=
  verifies_eq_true_iff.mpr ⟨algorithm, validate_compute algorithm payload, rfl⟩

/-! ## Order -/

/-- Valid digests are compared by their algorithms, and then by their digits. -/
theorem compare_text {digest other : Digest} {algorithm algorithm' : Algorithm}
    (valid : digest.validate = .ok algorithm) (valid' : other.validate = .ok algorithm') :
    compare digest.text other.text =
      (compare algorithm algorithm').then (compare digest.hex other.hex) := by
  rw [← Algorithm.compare_name]
  rcases lt_trichotomy algorithm.name algorithm'.name with before | same | behind
  · rw [compare_lt_iff_lt.mpr before, compare_lt_iff_lt.mpr (text_lt_of_name_lt valid valid' before)]
    rfl
  · rw [compare_eq_iff_eq.mpr same, Ordering.then]
    rcases lt_trichotomy digest.hex other.hex with before | same_hex | behind
    · rw [compare_lt_iff_lt.mpr before,
        compare_lt_iff_lt.mpr (text_lt_of_hex_lt valid valid' same before)]
    · rw [eq_of_parts valid valid' same same_hex, compare_eq_iff_eq.mpr rfl,
        compare_eq_iff_eq.mpr rfl]
    · rw [compare_gt_iff_gt.mpr behind,
        compare_gt_iff_gt.mpr (text_lt_of_hex_lt valid' valid same.symm behind)]
  · rw [compare_gt_iff_gt.mpr behind, compare_gt_iff_gt.mpr (text_lt_of_name_lt valid' valid behind)]
    rfl

/-- A text is accepted as a digest, and then as it is, exactly when it is written as one: the name of
an algorithm, a colon, and hexadecimal digits. Every computed digest is, and its payload belongs to
it. Valid digests are ordered as texts as they are by algorithm and digits. -/
theorem grammar_exact :
    (∀ text digest, parse text = .ok digest ↔ digest = ⟨text⟩ ∧ Written text) ∧
      (∀ algorithm payload, (compute algorithm payload).validate = .ok algorithm ∧
        Written (compute algorithm payload).text ∧
        (compute algorithm payload).verifies payload = .ok true) ∧
      ∀ (digest other : Digest) (algorithm algorithm' : Algorithm),
        digest.validate = .ok algorithm → other.validate = .ok algorithm' →
        compare digest.text other.text =
          (compare algorithm algorithm').then (compare digest.hex other.hex) := by
  refine ⟨fun text digest => parse_eq_ok_iff, fun algorithm payload => ?_,
    fun digest other algorithm algorithm' => compare_text⟩
  have valid := validate_compute algorithm payload
  exact ⟨valid, written_iff.mpr ⟨algorithm, valid⟩, verifies_compute algorithm payload⟩

/-- The algorithm comes before the digits. -/
theorem grammar_exact_two_algorithms :
    let digest : Digest := ⟨"sha256:" ++ String.ofList (List.replicate 64 'f')⟩
    let other : Digest := ⟨"sha384:" ++ String.ofList (List.replicate 96 '0')⟩
    digest.validate = .ok .sha256 ∧ other.validate = .ok .sha384 ∧
      compare digest.text other.text = .lt := by
  intro digest other
  have valid : digest.validate = .ok .sha256 := by decide +kernel
  have valid' : other.validate = .ok .sha384 := by decide +kernel
  exact ⟨valid, valid', grammar_exact.2.2 digest other .sha256 .sha384 valid valid'⟩

end Digest

end ArtifactRegistry
