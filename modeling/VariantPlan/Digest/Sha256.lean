/-!
# SHA-256

The digest of a text is SHA-256 over its bytes. A message is **padded** to whole blocks of sixteen
words, each block is expanded into a **schedule** of sixty-four words, and the schedule drives the
rounds that mix the block into the **state** of eight words.
-/

namespace VariantPlan.Digest

/-! ## Constants -/

/-- The first 32 bits of the fractional parts of the cube roots of the first 64 primes. -/
def roundConstants : List UInt32 :=
  [0x428a2f98, 0x71374491, 0xb5c0fbcf, 0xe9b5dba5, 0x3956c25b, 0x59f111f1,
    0x923f82a4, 0xab1c5ed5, 0xd807aa98, 0x12835b01, 0x243185be, 0x550c7dc3,
    0x72be5d74, 0x80deb1fe, 0x9bdc06a7, 0xc19bf174, 0xe49b69c1, 0xefbe4786,
    0x0fc19dc6, 0x240ca1cc, 0x2de92c6f, 0x4a7484aa, 0x5cb0a9dc, 0x76f988da,
    0x983e5152, 0xa831c66d, 0xb00327c8, 0xbf597fc7, 0xc6e00bf3, 0xd5a79147,
    0x06ca6351, 0x14292967, 0x27b70a85, 0x2e1b2138, 0x4d2c6dfc, 0x53380d13,
    0x650a7354, 0x766a0abb, 0x81c2c92e, 0x92722c85, 0xa2bfe8a1, 0xa81a664b,
    0xc24b8b70, 0xc76c51a3, 0xd192e819, 0xd6990624, 0xf40e3585, 0x106aa070,
    0x19a4c116, 0x1e376c08, 0x2748774c, 0x34b0bcb5, 0x391c0cb3, 0x4ed8aa4a,
    0x5b9cca4f, 0x682e6ff3, 0x748f82ee, 0x78a5636f, 0x84c87814, 0x8cc70208,
    0x90befffa, 0xa4506ceb, 0xbef9a3f7, 0xc67178f2]

/-- The eight words that are carried from block to block. -/
structure State where
  a : UInt32
  b : UInt32
  c : UInt32
  d : UInt32
  e : UInt32
  f : UInt32
  g : UInt32
  h : UInt32
deriving DecidableEq

/-- The first 32 bits of the fractional parts of the square roots of the first 8 primes. -/
def State.initial : State :=
  ⟨0x6a09e667, 0xbb67ae85, 0x3c6ef372, 0xa54ff53a,
    0x510e527f, 0x9b05688c, 0x1f83d9ab, 0x5be0cd19⟩

/-! ## Blocks -/

def rotate (x n : UInt32) : UInt32 := (x >>> n) ||| (x <<< (32 - n))

/-- The bytes of a 64-bit number, the most significant one first. -/
def lengthBytes (n : Nat) : List UInt8 :=
  [56, 48, 40, 32, 24, 16, 8, 0].map fun shift => (n >>> shift).toUInt8

/-- A message followed by a one bit, zeros, and its length in bits, up to whole blocks. -/
def padded (message : List UInt8) : List UInt8 :=
  let n := message.length
  message ++ 0x80 :: (List.replicate ((119 - n % 64) % 64) 0 ++ lengthBytes (8 * n))

/-- The words that bytes make, four bytes each. -/
def wordsOfBytes : List UInt8 → List UInt32
  | a :: b :: c :: d :: rest =>
    ((a.toUInt32 <<< 24) ||| (b.toUInt32 <<< 16) ||| (c.toUInt32 <<< 8) ||| d.toUInt32) ::
      wordsOfBytes rest
  | _ => []

/-- The first `n` blocks of sixteen words. -/
def blocks : Nat → List UInt32 → List (List UInt32)
  | 0, _ => []
  | n + 1, words => words.take 16 :: blocks n (words.drop 16)

/-! ## Rounds -/

/-- The next `n` words of the schedule whose last sixteen words are the window. -/
def scheduleFrom : Nat → List UInt32 → List UInt32
  | n + 1, w :: window =>
    let w₁ := window.getD 0 0
    let w₁₄ := window.getD 13 0
    let s₀ := rotate w₁ 7 ^^^ rotate w₁ 18 ^^^ (w₁ >>> 3)
    let s₁ := rotate w₁₄ 17 ^^^ rotate w₁₄ 19 ^^^ (w₁₄ >>> 10)
    w :: scheduleFrom n (window ++ [w + s₀ + window.getD 8 0 + s₁])
  | _, _ => []

def schedule (block : List UInt32) : List UInt32 := scheduleFrom 64 block

/-- One round: mix a word of the schedule, with its constant, into the state. -/
def State.round (s : State) (kw : UInt32 × UInt32) : State :=
  let s₁ := rotate s.e 6 ^^^ rotate s.e 11 ^^^ rotate s.e 25
  let choice := (s.e &&& s.f) ^^^ (~~~s.e &&& s.g)
  let t₁ := s.h + s₁ + choice + kw.1 + kw.2
  let s₀ := rotate s.a 2 ^^^ rotate s.a 13 ^^^ rotate s.a 22
  let majority := (s.a &&& s.b) ^^^ (s.a &&& s.c) ^^^ (s.b &&& s.c)
  ⟨t₁ + (s₀ + majority), s.a, s.b, s.c, s.d + t₁, s.e, s.f, s.g⟩

/-- Mix a block into the state. -/
def State.absorb (s : State) (block : List UInt32) : State :=
  let r := (roundConstants.zip (schedule block)).foldl State.round s
  ⟨s.a + r.a, s.b + r.b, s.c + r.c, s.d + r.d, s.e + r.e, s.f + r.f, s.g + r.g, s.h + r.h⟩

/-! ## Digests -/

/-- The bytes of a word, the most significant one first. -/
def bytesOfWord (w : UInt32) : List UInt8 :=
  [(w >>> 24).toUInt8, (w >>> 16).toUInt8, (w >>> 8).toUInt8, w.toUInt8]

def bytesOfState (s : State) : List UInt8 :=
  [s.a, s.b, s.c, s.d, s.e, s.f, s.g, s.h].flatMap bytesOfWord

/-- The 32 bytes of the digest of a message. -/
def sha256 (message : List UInt8) : List UInt8 :=
  let words := wordsOfBytes (padded message)
  bytesOfState ((blocks (words.length / 16) words).foldl State.absorb State.initial)

/-- Bytes in lowercase hexadecimal digits. -/
def hexText (bytes : List UInt8) : List Char :=
  bytes.flatMap fun b => [Nat.digitChar (b.toNat / 16), Nat.digitChar (b.toNat % 16)]

/-- The digest of bytes, as 64 hexadecimal digits. -/
def ofBytes (bytes : List UInt8) : String := String.ofList (hexText (sha256 bytes))

/-- The digest of a text's UTF-8 bytes, as 64 hexadecimal digits. -/
def ofText (s : String) : String := ofBytes s.toUTF8.data.toList

end VariantPlan.Digest
