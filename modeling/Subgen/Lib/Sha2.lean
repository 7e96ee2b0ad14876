import Mathlib.Data.List.Basic

/-!
# SHA-256

The digest of a list of bytes, as numbers. Words are numbers below `2 ^ 32`, and a block of the padded
message is sixteen of them. Nothing is proved of the digest but its size (`length_digest`) and that its
digits are hexadecimal (`mem_hexdigest`): that it tells messages apart is assumed nowhere.

A rotation is a shift of the word twice over (`twice`), so that one product serves the three rotations of
each of the four functions that mix the bits of a word.
-/

namespace Subgen

namespace Sha2

/-- The words are numbers below it. -/
def wordSize : ℕ := 4294967296

/-- A word, and in front of it the same word: its low half, shifted to the right, is the rotated word. -/
def twice (x : ℕ) : ℕ := x * 4294967297

/-- The first mixing function of the schedule. -/
def smallSigma0 (x : ℕ) : ℕ := (twice x >>> 7 ^^^ twice x >>> 18) % wordSize ^^^ x >>> 3

/-- The second mixing function of the schedule. -/
def smallSigma1 (x : ℕ) : ℕ := (twice x >>> 17 ^^^ twice x >>> 19) % wordSize ^^^ x >>> 10

/-- The mixing function of the first register. -/
def bigSigma0 (x : ℕ) : ℕ := (twice x >>> 2 ^^^ twice x >>> 13 ^^^ twice x >>> 22) % wordSize

/-- The mixing function of the fifth register. -/
def bigSigma1 (x : ℕ) : ℕ := (twice x >>> 6 ^^^ twice x >>> 11 ^^^ twice x >>> 25) % wordSize

/-- The bits of `y` where `x` has one, and those of `z` elsewhere. -/
def choose (x y z : ℕ) : ℕ := z ^^^ (x &&& (y ^^^ z))

/-- The bits that two of the three words have. -/
def majority (x y z : ℕ) : ℕ := (x &&& y) ||| (z &&& (x ||| y))

/-- The first bits of the fractional parts of the cube roots of the primes below 312. -/
def roundConstants : List ℕ :=
  [0x428a2f98, 0x71374491, 0xb5c0fbcf, 0xe9b5dba5, 0x3956c25b, 0x59f111f1, 0x923f82a4, 0xab1c5ed5,
    0xd807aa98, 0x12835b01, 0x243185be, 0x550c7dc3, 0x72be5d74, 0x80deb1fe, 0x9bdc06a7, 0xc19bf174,
    0xe49b69c1, 0xefbe4786, 0x0fc19dc6, 0x240ca1cc, 0x2de92c6f, 0x4a7484aa, 0x5cb0a9dc, 0x76f988da,
    0x983e5152, 0xa831c66d, 0xb00327c8, 0xbf597fc7, 0xc6e00bf3, 0xd5a79147, 0x06ca6351, 0x14292967,
    0x27b70a85, 0x2e1b2138, 0x4d2c6dfc, 0x53380d13, 0x650a7354, 0x766a0abb, 0x81c2c92e, 0x92722c85,
    0xa2bfe8a1, 0xa81a664b, 0xc24b8b70, 0xc76c51a3, 0xd192e819, 0xd6990624, 0xf40e3585, 0x106aa070,
    0x19a4c116, 0x1e376c08, 0x2748774c, 0x34b0bcb5, 0x391c0cb3, 0x4ed8aa4a, 0x5b9cca4f, 0x682e6ff3,
    0x748f82ee, 0x78a5636f, 0x84c87814, 0x8cc70208, 0x90befffa, 0xa4506ceb, 0xbef9a3f7, 0xc67178f2]

/-! ## Blocks -/

/-- The eight words that are carried through a message. -/
structure Registers where
  a : ℕ
  b : ℕ
  c : ℕ
  d : ℕ
  e : ℕ
  f : ℕ
  g : ℕ
  h : ℕ

namespace Registers

/-- The first bits of the fractional parts of the square roots of the first eight primes. -/
def initial : Registers :=
  ⟨0x6a09e667, 0xbb67ae85, 0x3c6ef372, 0xa54ff53a, 0x510e527f, 0x9b05688c, 0x1f83d9ab, 0x5be0cd19⟩

/-- The registers in their order. -/
def toList (r : Registers) : List ℕ := [r.a, r.b, r.c, r.d, r.e, r.f, r.g, r.h]

/-- One round, with its constant and its word of the message. -/
def round (r : Registers) (constant word : ℕ) : Registers :=
  let mixed := r.h + bigSigma1 r.e + choose r.e r.f r.g + constant + word
  ⟨(mixed + bigSigma0 r.a + majority r.a r.b r.c) % wordSize, r.a, r.b, r.c, (r.d + mixed) % wordSize, r.e, r.f,
    r.g⟩

/-- The rounds with the constants that are left. The first of the next sixteen words is used up, and the one
    behind them is made from four of them. -/
def rounds : List ℕ → List ℕ → Registers → Registers
  | constant :: constants,
    [w₀, w₁, w₂, w₃, w₄, w₅, w₆, w₇, w₈, w₉, w₁₀, w₁₁, w₁₂, w₁₃, w₁₄, w₁₅], r =>
    rounds constants [w₁, w₂, w₃, w₄, w₅, w₆, w₇, w₈, w₉, w₁₀, w₁₁, w₁₂, w₁₃, w₁₄, w₁₅,
      (smallSigma1 w₁₄ + w₉ + smallSigma0 w₁ + w₀) % wordSize] (r.round constant w₀)
  | _, _, r => r

/-- The registers added one by one. -/
def add (r s : Registers) : Registers :=
  ⟨(r.a + s.a) % wordSize, (r.b + s.b) % wordSize, (r.c + s.c) % wordSize, (r.d + s.d) % wordSize,
    (r.e + s.e) % wordSize, (r.f + s.f) % wordSize, (r.g + s.g) % wordSize, (r.h + s.h) % wordSize⟩

/-- The rounds of one block. -/
def compress (r : Registers) (block : List ℕ) : Registers := r.add (rounds roundConstants block r)

end Registers

/-! ## Messages -/

/-- The last `k` digits of a number to the base 256, the greatest first. -/
def bigEndian : ℕ → ℕ → List ℕ
  | 0, _ => []
  | k + 1, n => bigEndian k (n / 256) ++ [n % 256]

/-- The message, a bit, zeros up to eight bytes before the end of a block, and the length in bits. -/
def padded (bytes : List ℕ) : List ℕ :=
  bytes ++ 128 :: (List.replicate ((119 - bytes.length % 64) % 64) 0 ++ bigEndian 8 (8 * bytes.length))

/-- Four bytes make one word, the first of them the highest. -/
def words : List ℕ → List ℕ
  | a :: b :: c :: d :: bytes => (((a * 256 + b) * 256 + c) * 256 + d) :: words bytes
  | _ => []

/-- So many blocks from the front. -/
def blocks : ℕ → List ℕ → List (List ℕ)
  | 0, _ => []
  | n + 1, ws => ws.take 16 :: blocks n (ws.drop 16)

/-- The 32 bytes of the digest. -/
def digest (bytes : List ℕ) : List ℕ :=
  let ws := words (padded bytes)
  ((blocks (ws.length / 16) ws).foldl Registers.compress .initial).toList.flatMap (bigEndian 4)

/-- A hexadecimal digit in lower case, as a code point. -/
def hexDigit (n : ℕ) : ℕ := if n < 10 then 48 + n else 87 + n

/-- The digest in hexadecimal digits. -/
def hexdigest (bytes : List ℕ) : List ℕ :=
  (digest bytes).flatMap fun b => [hexDigit (b / 16), hexDigit (b % 16)]

theorem length_bigEndian (k n : ℕ) : (bigEndian k n).length = k := by
  induction k generalizing n with
  | zero => rfl
  | succ k ih => rw [bigEndian, List.length_append, ih, List.length_singleton]

theorem lt_of_mem_bigEndian {k n b : ℕ} (h : b ∈ bigEndian k n) : b < 256 := by
  induction k generalizing n with
  | zero => cases h
  | succ k ih =>
    rcases List.mem_append.1 h with h | h
    · exact ih h
    · rw [List.mem_singleton.1 h]
      exact Nat.mod_lt _ (by decide)

/-- A digest has 32 bytes. -/
theorem length_digest (bytes : List ℕ) : (digest bytes).length = 32 := by
  simp [digest, Registers.toList, length_bigEndian]

theorem lt_of_mem_digest {bytes : List ℕ} {b : ℕ} (h : b ∈ digest bytes) : b < 256 := by
  obtain ⟨_, -, h⟩ := List.mem_flatMap.1 h
  exact lt_of_mem_bigEndian h

/-- It is written with 64 digits. -/
theorem length_hexdigest (bytes : List ℕ) : (hexdigest bytes).length = 64 := by
  rw [hexdigest, List.length_flatMap]
  simp [length_digest]

theorem hexDigit_range {n : ℕ} (h : n < 16) : 48 ≤ hexDigit n ∧ hexDigit n ≤ 57 ∨ 97 ≤ hexDigit n ∧ hexDigit n ≤ 102 := by
  rw [hexDigit]
  split_ifs <;> omega

/-- They are hexadecimal digits in lower case. -/
theorem mem_hexdigest {bytes : List ℕ} {c : ℕ} (h : c ∈ hexdigest bytes) : 48 ≤ c ∧ c ≤ 57 ∨ 97 ≤ c ∧ c ≤ 102 := by
  obtain ⟨b, hb, h⟩ := List.mem_flatMap.1 h
  have hlt := lt_of_mem_digest hb
  rcases List.mem_cons.1 h with rfl | h
  · exact hexDigit_range (by omega)
  · rw [List.mem_singleton.1 h]
    exact hexDigit_range (Nat.mod_lt _ (by decide))

-- The digest of the letters `abc`.
example : hexdigest [97, 98, 99] =
    "ba7816bf8f01cfea414140de5dae2223b00361a396177a9cb410ff61f20015ad".toList.map Char.toNat := by
  decide +kernel

end Sha2

end Subgen
