/-!
# SHA-256

The digest of a message of octets. The message is padded to whole blocks of sixteen words: a set
bit, zeros, and the length in bits. Each block changes the eight registers by sixty-four rounds; a
round takes one constant and the first word of a window of sixteen, and moves the window on by one
word. The registers after the last block are the digest.
-/

namespace ODataSession.Sha256

/-! ## Words -/

/-- Turns the bits of a word to the right. -/
def rotate (w : UInt32) (n : UInt32) : UInt32 :=
  (w >>> n) ||| (w <<< (32 - n))

/-- Chooses the bits of the second word where the first is set, else those of the third. -/
def choose (x y z : UInt32) : UInt32 :=
  (x &&& y) ^^^ (~~~x &&& z)

/-- The bits that are set in at least two of three words. -/
def majority (x y z : UInt32) : UInt32 :=
  (x &&& y) ^^^ (x &&& z) ^^^ (y &&& z)

/-- The mixing of the first register. -/
def bigSigma0 (w : UInt32) : UInt32 :=
  rotate w 2 ^^^ rotate w 13 ^^^ rotate w 22

/-- The mixing of the fifth register. -/
def bigSigma1 (w : UInt32) : UInt32 :=
  rotate w 6 ^^^ rotate w 11 ^^^ rotate w 25

/-- The mixing of the second word of the window. -/
def smallSigma0 (w : UInt32) : UInt32 :=
  rotate w 7 ^^^ rotate w 18 ^^^ (w >>> 3)

/-- The mixing of the fifteenth word of the window. -/
def smallSigma1 (w : UInt32) : UInt32 :=
  rotate w 17 ^^^ rotate w 19 ^^^ (w >>> 10)

/-- The constants of the rounds: the first bits of the fractional parts of the cube roots of the
first sixty-four primes. -/
def roundConstants : List UInt32 := [
  0x428a2f98, 0x71374491, 0xb5c0fbcf, 0xe9b5dba5, 0x3956c25b, 0x59f111f1, 0x923f82a4, 0xab1c5ed5,
  0xd807aa98, 0x12835b01, 0x243185be, 0x550c7dc3, 0x72be5d74, 0x80deb1fe, 0x9bdc06a7, 0xc19bf174,
  0xe49b69c1, 0xefbe4786, 0x0fc19dc6, 0x240ca1cc, 0x2de92c6f, 0x4a7484aa, 0x5cb0a9dc, 0x76f988da,
  0x983e5152, 0xa831c66d, 0xb00327c8, 0xbf597fc7, 0xc6e00bf3, 0xd5a79147, 0x06ca6351, 0x14292967,
  0x27b70a85, 0x2e1b2138, 0x4d2c6dfc, 0x53380d13, 0x650a7354, 0x766a0abb, 0x81c2c92e, 0x92722c85,
  0xa2bfe8a1, 0xa81a664b, 0xc24b8b70, 0xc76c51a3, 0xd192e819, 0xd6990624, 0xf40e3585, 0x106aa070,
  0x19a4c116, 0x1e376c08, 0x2748774c, 0x34b0bcb5, 0x391c0cb3, 0x4ed8aa4a, 0x5b9cca4f, 0x682e6ff3,
  0x748f82ee, 0x78a5636f, 0x84c87814, 0x8cc70208, 0x90befffa, 0xa4506ceb, 0xbef9a3f7, 0xc67178f2]

/-! ## Registers -/

/-- The eight registers. -/
structure Registers where
  a : UInt32
  b : UInt32
  c : UInt32
  d : UInt32
  e : UInt32
  f : UInt32
  g : UInt32
  h : UInt32
  deriving DecidableEq, Repr, Inhabited

namespace Registers

/-- The registers before the first block: the first bits of the fractional parts of the square
roots of the first eight primes. -/
def initial : Registers :=
  ⟨0x6a09e667, 0xbb67ae85, 0x3c6ef372, 0xa54ff53a, 0x510e527f, 0x9b05688c, 0x1f83d9ab, 0x5be0cd19⟩

/-- The sums of the registers one by one. -/
def add (r s : Registers) : Registers :=
  ⟨r.a + s.a, r.b + s.b, r.c + s.c, r.d + s.d, r.e + s.e, r.f + s.f, r.g + s.g, r.h + s.h⟩

/-- The registers as a list of words. -/
def toList (r : Registers) : List UInt32 :=
  [r.a, r.b, r.c, r.d, r.e, r.f, r.g, r.h]

/-- One round with a constant and a word of the message. -/
def round (r : Registers) (constant word : UInt32) : Registers :=
  let first := r.h + bigSigma1 r.e + choose r.e r.f r.g + constant + word
  let second := bigSigma0 r.a + majority r.a r.b r.c
  ⟨first + second, r.a, r.b, r.c, r.d + first, r.e, r.f, r.g⟩

end Registers

/-! ## Blocks -/

/-- The word that enters a window of sixteen when its first word leaves. -/
def nextWord (window : List UInt32) : UInt32 :=
  smallSigma1 (window.getD 14 0) + window.getD 9 0 + smallSigma0 (window.getD 1 0) +
    window.getD 0 0

/-- Runs the rounds of the given constants. -/
def rounds : List UInt32 → Registers → List UInt32 → Registers
  | [], r, _ => r
  | constant :: constants, r, window =>
    rounds constants (r.round constant (window.getD 0 0)) (window.drop 1 ++ [nextWord window])

/-- What a block makes of the registers. -/
def compress (r : Registers) (block : List UInt32) : Registers :=
  r.add (rounds roundConstants r block)

/-- Compresses one block after the other. -/
def absorb (r : Registers) (words : List UInt32) : Registers :=
  if words.isEmpty then r else absorb (compress r (words.take 16)) (words.drop 16)
termination_by words.length
decreasing_by
  have : words ≠ [] := by simpa using ‹¬words.isEmpty = true›
  have := List.length_pos_iff.2 this
  simp only [List.length_drop]
  omega

/-! ## Messages -/

/-- The word of four octets, the first of them on top. -/
def wordOf (a b c d : UInt8) : UInt32 :=
  (a.toUInt32 <<< 24) ||| (b.toUInt32 <<< 16) ||| (c.toUInt32 <<< 8) ||| d.toUInt32

/-- The words of octets; fewer than four octets at the end are dropped. -/
def wordsOf : List UInt8 → List UInt32
  | a :: b :: c :: d :: rest => wordOf a b c d :: wordsOf rest
  | _ => []

/-- A number as eight octets, the first of them on top. -/
def lengthOctets (n : Nat) : List UInt8 :=
  [56, 48, 40, 32, 24, 16, 8, 0].map fun shift => UInt8.ofNat (n >>> shift)

/-- What is appended to a message of a length: a set bit, the zeros up to the last eight octets of
a block, and the length in bits. -/
def padding (length : Nat) : List UInt8 :=
  0x80 :: (List.replicate ((119 - length % 64) % 64) 0 ++ lengthOctets (8 * length))

/-- The digest of a message. -/
def digest (message : List UInt8) : Registers :=
  absorb .initial (wordsOf (message ++ padding message.length))

/-- A word as eight lower-case hexadecimal digits. -/
def wordText (w : UInt32) : List Char :=
  [28, 24, 20, 16, 12, 8, 4, 0].map fun shift => Nat.digitChar (w.toNat >>> shift % 16)

/-- The registers as sixty-four lower-case hexadecimal digits. -/
def Registers.hexText (r : Registers) : List Char :=
  r.toList.flatMap wordText

end ODataSession.Sha256
