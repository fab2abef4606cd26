import ArtifactRegistry.Bytes
import ArtifactRegistry.Decimal.Numeral
import Mathlib.Algebra.Group.Nat.Defs
import Mathlib.Data.List.Induction

/-! # Numerals of a fixed width

A number below a power of ten has no more digits than the exponent, so filled up with zeros it has as
many places as asked for: `length_places`. The zeros do not change its value, `ofDigits_places`. In
ASCII, every place is one byte, `ofText_padded`.
-/

namespace ArtifactRegistry

theorem Bytes.ofText_append (text text' : String) :
    ofText (text ++ text') = ofText text ++ ofText text' := by
  simp [ofText]

theorem Bytes.ofText_ofList (characters : List Char) :
    ofText (String.ofList characters) = characters.flatMap String.utf8EncodeChar := by
  simp [ofText, List.utf8Encode]

namespace Decimal

/-! ## Digits -/

theorem ofDigits_replicate_append (zeros : Nat) (digits : List Nat) :
    ofDigits (List.replicate zeros 0 ++ digits) = ofDigits digits := by
  rw [ofDigits, List.foldl_append, ofDigits]
  congr 1
  induction zeros with
  | zero => rfl
  | succ zeros ih => exact ih

theorem ofDigits_lt {digits : List Nat} (small : ∀ d ∈ digits, d < 10) :
    ofDigits digits < 10 ^ digits.length := by
  induction digits using List.reverseRecOn with
  | nil => exact Nat.one_pos
  | append_singleton digits last ih =>
    obtain ⟨earlier, one⟩ := List.forall_mem_append.mp small
    have := ih earlier
    have := List.forall_mem_singleton.mp one
    rw [ofDigits_append, List.length_append, List.length_singleton, Nat.pow_succ]
    omega

theorem length_digits_le {width n : Nat} (some_place : 0 < width) (small : n < 10 ^ width) :
    (digits n).length ≤ width := by
  induction width generalizing n with
  | zero => cases some_place
  | succ width ih =>
    rw [digits]
    split
    · rw [List.length_singleton]
      omega
    · next large =>
      have wide : 0 < width := by
        rcases Nat.eq_zero_or_pos width with rfl | wide
        · omega
        · exact wide
      rw [Nat.pow_succ] at small
      have := ih wide (show n / 10 < 10 ^ width by omega)
      rw [List.length_append, List.length_singleton]
      omega

/-! ## Places -/

/-- The digits of a number, filled up with zeros on the left. -/
def places (width n : Nat) : List Nat :=
  List.replicate (width - (digits n).length) 0 ++ digits n

theorem places_lt (width n : Nat) : ∀ d ∈ places width n, d < 10 := by
  rw [places, List.forall_mem_append]
  refine ⟨fun d zero => ?_, digits_lt n⟩
  rw [List.eq_of_mem_replicate zero]
  decide

theorem ofDigits_places (width n : Nat) : ofDigits (places width n) = n := by
  rw [places, ofDigits_replicate_append, ofDigits_digits]

theorem le_length_places (width n : Nat) : width ≤ (places width n).length := by
  rw [places, List.length_append, List.length_replicate]
  omega

theorem length_places {width n : Nat} (some_place : 0 < width) (small : n < 10 ^ width) :
    (places width n).length = width := by
  have := length_digits_le some_place small
  rw [places, List.length_append, List.length_replicate]
  omega

theorem utf8EncodeChar_digit : ∀ d < 10, String.utf8EncodeChar (Char.ofNat (48 + d)) = [digitByte d] := by
  decide

theorem ofText_padded (width n : Nat) :
    Bytes.ofText (padded width n) = (places width n).map digitByte := by
  have text_eq : padded width n =
      String.ofList ((places width n).map fun digit => Char.ofNat (48 + digit)) := by
    rw [padded, places, List.map_append, List.map_replicate]
    simp
  rw [text_eq, Bytes.ofText_ofList, List.flatMap_map, List.map_eq_flatMap, List.flatMap_def,
    List.flatMap_def, List.map_congr_left fun d member =>
      utf8EncodeChar_digit d (places_lt width n d member)]

theorem length_padded {width n : Nat} (some_place : 0 < width) (small : n < 10 ^ width) :
    (Bytes.ofText (padded width n)).length = width := by
  rw [ofText_padded, List.length_map]
  exact length_places some_place small

theorem le_length_padded (width n : Nat) : width ≤ (Bytes.ofText (padded width n)).length := by
  rw [ofText_padded, List.length_map]
  exact le_length_places width n

end Decimal

end ArtifactRegistry
