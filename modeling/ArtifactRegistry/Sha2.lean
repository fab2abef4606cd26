/-! # The SHA-2 family

SHA-256, SHA-384 and SHA-512 are one compression function over words of two widths. A block is
compressed by one pass over the round constants: each round consumes the oldest word of a window of
sixteen message words and appends the next word of the schedule. A digest is a prefix of the eight
chaining words, so its length depends on the design alone.
-/

namespace ArtifactRegistry.Sha2

/-- The eight chaining words. -/
structure Chain (w : Nat) where
  (a b c d e f g h : BitVec w)
deriving DecidableEq

namespace Chain

variable {w : Nat}

def words (s : Chain w) : List (BitVec w) := [s.a, s.b, s.c, s.d, s.e, s.f, s.g, s.h]

def add (s t : Chain w) : Chain w :=
  ⟨s.a + t.a, s.b + t.b, s.c + t.c, s.d + t.d, s.e + t.e, s.f + t.f, s.g + t.g, s.h + t.h⟩

end Chain

/-- What tells the members of the family apart. Two rotations and a shift make a schedule mixer,
three rotations a round mixer. -/
structure Design (w : Nat) where
  start : Chain w
  constants : List (BitVec w)
  schedule0 : Nat × Nat × Nat
  schedule1 : Nat × Nat × Nat
  round0 : Nat × Nat × Nat
  round1 : Nat × Nat × Nat
  /-- How many bytes of the final chaining words are kept. -/
  outputLength : Nat

variable {w : Nat}

private def scheduleMix (amounts : Nat × Nat × Nat) (x : BitVec w) : BitVec w :=
  x.rotateRight amounts.1 ^^^ x.rotateRight amounts.2.1 ^^^ (x >>> amounts.2.2)

private def roundMix (amounts : Nat × Nat × Nat) (x : BitVec w) : BitVec w :=
  x.rotateRight amounts.1 ^^^ x.rotateRight amounts.2.1 ^^^ x.rotateRight amounts.2.2

/-- The schedule word sixteen places after the head of the window. -/
def nextWord (design : Design w) (window : List (BitVec w)) : BitVec w :=
  scheduleMix design.schedule1 (window.getD 14 0) + window.getD 9 0
    + scheduleMix design.schedule0 (window.getD 1 0) + window.getD 0 0

/-- One round, with the sum of its constant and its message word. -/
def round (design : Design w) (s : Chain w) (input : BitVec w) : Chain w :=
  let choice := (s.e &&& s.f) ^^^ (~~~s.e &&& s.g)
  let majority := (s.a &&& s.b) ^^^ (s.a &&& s.c) ^^^ (s.b &&& s.c)
  let t := s.h + roundMix design.round1 s.e + choice + input
  ⟨t + (roundMix design.round0 s.a + majority), s.a, s.b, s.c, s.d + t, s.e, s.f, s.g⟩

/-- Runs one round for every constant, sliding the window along the schedule. -/
def rounds (design : Design w) : List (BitVec w) → List (BitVec w) → Chain w → Chain w
  | [], _, s => s
  | k :: ks, window, s =>
    rounds design ks (window.drop 1 ++ [nextWord design window])
      (round design s (k + window.getD 0 0))

def compress (design : Design w) (s : Chain w) (block : List (BitVec w)) : Chain w :=
  s.add (rounds design design.constants block s)

/-- Big-endian bytes of a number. -/
def bigEndian : (count : Nat) → Nat → List UInt8
  | 0, _ => []
  | count + 1, n => UInt8.ofNat (n / Nat.pow 256 count) :: bigEndian count n

@[simp] theorem length_bigEndian (count n : Nat) : (bigEndian count n).length = count := by
  induction count with
  | zero => rfl
  | succ count ih => simp [bigEndian, ih]

/-- Cuts a list into pieces of `size`, the last one possibly shorter. -/
def chunks {α : Type} (size : Nat) (xs : List α) : List (List α) :=
  if _h : size = 0 ∨ xs = [] then []
  else xs.take size :: chunks size (xs.drop size)
termination_by xs.length
decreasing_by
  have : xs ≠ [] := fun e => _h (.inr e)
  have := List.length_pos_iff.mpr this
  simp only [List.length_drop]
  omega

/-- The message, a one bit, zeros up to a whole number of blocks, and the length in bits. -/
def pad (w : Nat) (message : List UInt8) : List UInt8 :=
  let block := 2 * w
  let lengthField := w / 4
  let zeros := (block - (message.length + 1 + lengthField) % block) % block
  message ++ 0x80 :: List.replicate zeros 0 ++ bigEndian lengthField (8 * message.length)

private def wordOf (w : Nat) (bytes : List UInt8) : BitVec w :=
  bytes.foldl (fun word byte => (word <<< 8) ||| BitVec.ofNat w byte.toNat) 0

/-- The digest of a message. -/
def hash (design : Design w) (message : List UInt8) : List UInt8 :=
  let blocks := chunks 16 ((chunks (w / 8) (pad w message)).map (wordOf w))
  let final := blocks.foldl (compress design) design.start
  (final.words.flatMap fun word => bigEndian (w / 8) word.toNat).take design.outputLength

theorem length_hash (design : Design w) (message : List UInt8)
    (fits : design.outputLength ≤ 8 * (w / 8)) :
    (hash design message).length = design.outputLength := by
  simp only [hash, Chain.words, List.flatMap_cons, List.flatMap_nil, List.length_take,
    List.length_append, length_bigEndian, List.length_nil]
  omega

/-- The first 32 fraction bits of the cube roots of the first 64 primes. -/
def constants32 : List (BitVec 32) := [
  0x428a2f98, 0x71374491, 0xb5c0fbcf, 0xe9b5dba5, 0x3956c25b, 0x59f111f1,
  0x923f82a4, 0xab1c5ed5, 0xd807aa98, 0x12835b01, 0x243185be, 0x550c7dc3,
  0x72be5d74, 0x80deb1fe, 0x9bdc06a7, 0xc19bf174, 0xe49b69c1, 0xefbe4786,
  0x0fc19dc6, 0x240ca1cc, 0x2de92c6f, 0x4a7484aa, 0x5cb0a9dc, 0x76f988da,
  0x983e5152, 0xa831c66d, 0xb00327c8, 0xbf597fc7, 0xc6e00bf3, 0xd5a79147,
  0x06ca6351, 0x14292967, 0x27b70a85, 0x2e1b2138, 0x4d2c6dfc, 0x53380d13,
  0x650a7354, 0x766a0abb, 0x81c2c92e, 0x92722c85, 0xa2bfe8a1, 0xa81a664b,
  0xc24b8b70, 0xc76c51a3, 0xd192e819, 0xd6990624, 0xf40e3585, 0x106aa070,
  0x19a4c116, 0x1e376c08, 0x2748774c, 0x34b0bcb5, 0x391c0cb3, 0x4ed8aa4a,
  0x5b9cca4f, 0x682e6ff3, 0x748f82ee, 0x78a5636f, 0x84c87814, 0x8cc70208,
  0x90befffa, 0xa4506ceb, 0xbef9a3f7, 0xc67178f2]

/-- The first 64 fraction bits of the cube roots of the first 80 primes. -/
def constants64 : List (BitVec 64) := [
  0x428a2f98d728ae22, 0x7137449123ef65cd, 0xb5c0fbcfec4d3b2f, 0xe9b5dba58189dbbc,
  0x3956c25bf348b538, 0x59f111f1b605d019, 0x923f82a4af194f9b, 0xab1c5ed5da6d8118,
  0xd807aa98a3030242, 0x12835b0145706fbe, 0x243185be4ee4b28c, 0x550c7dc3d5ffb4e2,
  0x72be5d74f27b896f, 0x80deb1fe3b1696b1, 0x9bdc06a725c71235, 0xc19bf174cf692694,
  0xe49b69c19ef14ad2, 0xefbe4786384f25e3, 0x0fc19dc68b8cd5b5, 0x240ca1cc77ac9c65,
  0x2de92c6f592b0275, 0x4a7484aa6ea6e483, 0x5cb0a9dcbd41fbd4, 0x76f988da831153b5,
  0x983e5152ee66dfab, 0xa831c66d2db43210, 0xb00327c898fb213f, 0xbf597fc7beef0ee4,
  0xc6e00bf33da88fc2, 0xd5a79147930aa725, 0x06ca6351e003826f, 0x142929670a0e6e70,
  0x27b70a8546d22ffc, 0x2e1b21385c26c926, 0x4d2c6dfc5ac42aed, 0x53380d139d95b3df,
  0x650a73548baf63de, 0x766a0abb3c77b2a8, 0x81c2c92e47edaee6, 0x92722c851482353b,
  0xa2bfe8a14cf10364, 0xa81a664bbc423001, 0xc24b8b70d0f89791, 0xc76c51a30654be30,
  0xd192e819d6ef5218, 0xd69906245565a910, 0xf40e35855771202a, 0x106aa07032bbd1b8,
  0x19a4c116b8d2d0c8, 0x1e376c085141ab53, 0x2748774cdf8eeb99, 0x34b0bcb5e19b48a8,
  0x391c0cb3c5c95a63, 0x4ed8aa4ae3418acb, 0x5b9cca4f7763e373, 0x682e6ff3d6b2b8a3,
  0x748f82ee5defb2fc, 0x78a5636f43172f60, 0x84c87814a1f0ab72, 0x8cc702081a6439ec,
  0x90befffa23631e28, 0xa4506cebde82bde9, 0xbef9a3f7b2c67915, 0xc67178f2e372532b,
  0xca273eceea26619c, 0xd186b8c721c0c207, 0xeada7dd6cde0eb1e, 0xf57d4f7fee6ed178,
  0x06f067aa72176fba, 0x0a637dc5a2c898a6, 0x113f9804bef90dae, 0x1b710b35131c471b,
  0x28db77f523047d84, 0x32caab7b40c72493, 0x3c9ebe0a15c9bebc, 0x431d67c49c100d4c,
  0x4cc5d4becb3e42b6, 0x597f299cfc657e2a, 0x5fcb6fab3ad6faec, 0x6c44198c4a475817]

/-- SHA-256: 32-bit words; the chain starts from the square roots of the first eight primes. -/
def sha256 : Design 32 where
  start := ⟨
    0x6a09e667, 0xbb67ae85, 0x3c6ef372, 0xa54ff53a,
    0x510e527f, 0x9b05688c, 0x1f83d9ab, 0x5be0cd19⟩
  constants := constants32
  schedule0 := (7, 18, 3)
  schedule1 := (17, 19, 10)
  round0 := (2, 13, 22)
  round1 := (6, 11, 25)
  outputLength := 32

/-- SHA-512: 64-bit words; the chain starts from the square roots of the first eight primes. -/
def sha512 : Design 64 where
  start := ⟨
    0x6a09e667f3bcc908, 0xbb67ae8584caa73b, 0x3c6ef372fe94f82b, 0xa54ff53a5f1d36f1,
    0x510e527fade682d1, 0x9b05688c2b3e6c1f, 0x1f83d9abfb41bd6b, 0x5be0cd19137e2179⟩
  constants := constants64
  schedule0 := (1, 8, 7)
  schedule1 := (19, 61, 6)
  round0 := (28, 34, 39)
  round1 := (14, 18, 41)
  outputLength := 64

/-- SHA-384: SHA-512 started from the square roots of the next eight primes, and cut short. -/
def sha384 : Design 64 :=
  { sha512 with
    start := ⟨
      0xcbbb9d5dc1059ed8, 0x629a292a367cd507, 0x9159015a3070dd17, 0x152fecd8f70e5939,
      0x67332667ffc00b31, 0x8eb44a8768581511, 0xdb0c2e0d64f98fa7, 0x47b5481dbefa4fa4⟩
    outputLength := 48 }

end ArtifactRegistry.Sha2
