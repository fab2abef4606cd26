/-! # Decimal numerals

Numbers as sequences of decimal digits, most significant first, and back. Reading the digits of a
number gives the number.
-/

namespace ArtifactRegistry.Decimal

/-- The decimal digits of a number; zero has one digit. -/
def digits (n : Nat) : List Nat :=
  if n < 10 then [n] else digits (n / 10) ++ [n % 10]
termination_by n

/-- The number that a sequence of digits stands for. -/
def ofDigits (digits : List Nat) : Nat := digits.foldl (fun value digit => 10 * value + digit) 0

@[simp] theorem ofDigits_append (xs : List Nat) (x : Nat) :
    ofDigits (xs ++ [x]) = 10 * ofDigits xs + x := by simp [ofDigits]

@[simp] theorem ofDigits_digits (n : Nat) : ofDigits (digits n) = n := by
  fun_induction digits n with
  | case1 n small => simp [ofDigits]
  | case2 n large ih => rw [ofDigits_append, ih]; omega

theorem digits_lt (n : Nat) : ∀ d ∈ digits n, d < 10 := by
  fun_induction digits n with
  | case1 n small => simpa using small
  | case2 n large ih =>
    intro d member
    rcases List.mem_append.mp member with earlier | last
    · exact ih d earlier
    · obtain rfl := List.mem_singleton.mp last; omega

theorem digits_ne_nil (n : Nat) : digits n ≠ [] := by
  rw [digits]; split <;> simp

/-- The ASCII character of a digit. -/
def digitByte (digit : Nat) : UInt8 := UInt8.ofNat (48 + digit)

/-- A number in ASCII. -/
def ofNat (n : Nat) : List UInt8 := (digits n).map digitByte

/-- A number in ASCII, with a sign when negative. -/
def ofInt : Int → List UInt8
  | .ofNat n => ofNat n
  | .negSucc n => 0x2d :: ofNat (n + 1)

/-- A number in text, filled up with zeros on the left. -/
def padded (width n : Nat) : String :=
  let text := (digits n).map fun digit => Char.ofNat (48 + digit)
  String.ofList (List.replicate (width - text.length) '0' ++ text)

end ArtifactRegistry.Decimal
