/-!
# SHA-256

The digest of a list of bytes: the message is padded to whole blocks of 64
bytes, each block is mixed into a state of eight words of 32 bits, and the
bytes of the last state are the digest. A digest has 32 bytes
(`length_sha256`).
-/

namespace Loyalty.Digest

/-- The eight words that the blocks of a message are mixed into. -/
structure Sha256State where
  a : UInt32
  b : UInt32
  c : UInt32
  d : UInt32
  e : UInt32
  f : UInt32
  g : UInt32
  h : UInt32

namespace Sha256State

/-- The state before the first block: the first 32 bits of the fractional
    parts of the square roots of the first eight primes. -/
def start : Sha256State :=
  ⟨0x6a09e667, 0xbb67ae85, 0x3c6ef372, 0xa54ff53a,
   0x510e527f, 0x9b05688c, 0x1f83d9ab, 0x5be0cd19⟩

/-- One round, with the word of the round and the word of the schedule. -/
def mix (s : Sha256State) (constant word : UInt32) : Sha256State :=
  let rotate (x : UInt32) (n : UInt32) := (x >>> n) ||| (x <<< (32 - n))
  let s1 := rotate s.e 6 ^^^ rotate s.e 11 ^^^ rotate s.e 25
  let choice := (s.e &&& s.f) ^^^ (~~~ s.e &&& s.g)
  let t1 := s.h + s1 + choice + constant + word
  let s0 := rotate s.a 2 ^^^ rotate s.a 13 ^^^ rotate s.a 22
  let majority := (s.a &&& s.b) ^^^ (s.a &&& s.c) ^^^ (s.b &&& s.c)
  ⟨t1 + s0 + majority, s.a, s.b, s.c, s.d + t1, s.e, s.f, s.g⟩

/-- The sums of the words of two states. -/
def add (s t : Sha256State) : Sha256State :=
  ⟨s.a + t.a, s.b + t.b, s.c + t.c, s.d + t.d, s.e + t.e, s.f + t.f, s.g + t.g, s.h + t.h⟩

/-- The four bytes of a word, the highest first. -/
def wordBytes (w : UInt32) : List UInt8 :=
  [(w >>> 24).toUInt8, (w >>> 16).toUInt8, (w >>> 8).toUInt8, w.toUInt8]

/-- The bytes of the words, in order. -/
def bytes (s : Sha256State) : List UInt8 :=
  wordBytes s.a ++ wordBytes s.b ++ wordBytes s.c ++ wordBytes s.d ++
    wordBytes s.e ++ wordBytes s.f ++ wordBytes s.g ++ wordBytes s.h

theorem length_bytes (s : Sha256State) : s.bytes.length = 32 := rfl

end Sha256State

/-! ## Blocks -/

/-- The word of each round: the first 32 bits of the fractional parts of the
    cube roots of the first 64 primes. -/
def roundWords : List UInt32 :=
  [0x428a2f98, 0x71374491, 0xb5c0fbcf, 0xe9b5dba5, 0x3956c25b, 0x59f111f1,
   0x923f82a4, 0xab1c5ed5, 0xd807aa98, 0x12835b01, 0x243185be, 0x550c7dc3,
   0x72be5d74, 0x80deb1fe, 0x9bdc06a7, 0xc19bf174, 0xe49b69c1, 0xefbe4786,
   0x0fc19dc6, 0x240ca1cc, 0x2de92c6f, 0x4a7484aa, 0x5cb0a9dc, 0x76f988da,
   0x983e5152, 0xa831c66d, 0xb00327c8, 0xbf597fc7, 0xc6e00bf3, 0xd5a79147,
   0x06ca6351, 0x14292967, 0x27b70a85, 0x2e1b2138, 0x4d2c6dfc, 0x53380d13,
   0x650a7354, 0x766a0abb, 0x81c2c92e, 0x92722c85, 0xa2bfe8a1, 0xa81a664b,
   0xc24b8b70, 0xc76c51a3, 0xd192e819, 0xd6990624, 0xf40e3585, 0x106aa070,
   0x19a4c116, 0x1e376c08, 0x2748774c, 0x34b0bcb5, 0x391c0cb3, 0x4ed8aa4a,
   0x5b9cca4f, 0x682e6ff3, 0x748f82ee, 0x78a5636f, 0x84c87814, 0x8cc70208,
   0x90befffa, 0xa4506ceb, 0xbef9a3f7, 0xc67178f2]

/-- The words of a block, the highest byte of each first. -/
def blockWords : List UInt8 → List UInt32
  | p :: q :: r :: s :: rest =>
    (p.toUInt32 <<< 24 ||| q.toUInt32 <<< 16 ||| r.toUInt32 <<< 8 ||| s.toUInt32) ::
      blockWords rest
  | _ => []

/-- The words of a block and those that are derived from them, one a round. -/
def schedule (block : List UInt8) : Array UInt32 :=
  (List.range 48).foldl
    (fun words i =>
      let rotate (x : UInt32) (n : UInt32) := (x >>> n) ||| (x <<< (32 - n))
      let x := words.getD (i + 1) 0
      let y := words.getD (i + 14) 0
      let s0 := rotate x 7 ^^^ rotate x 18 ^^^ (x >>> 3)
      let s1 := rotate y 17 ^^^ rotate y 19 ^^^ (y >>> 10)
      words.push (words.getD i 0 + s0 + words.getD (i + 9) 0 + s1))
    (blockWords block).toArray

/-- The state after a block of 64 bytes. -/
def absorbBlock (s : Sha256State) (block : List UInt8) : Sha256State :=
  let mixed := (roundWords.zip (schedule block).toList).foldl (fun t (k, w) => t.mix k w) s
  s.add mixed

/-- The state after so many blocks. -/
def absorb : Nat → Sha256State → List UInt8 → Sha256State
  | 0, s, _ => s
  | n + 1, s, bs => absorb n (absorbBlock s (bs.take 64)) (bs.drop 64)

/-- The eight bytes of a number below `2 ^ 64`, the highest first. -/
def lengthBytes (n : Nat) : List UInt8 :=
  [56, 48, 40, 32, 24, 16, 8, 0].map fun shift => UInt8.ofNat (n >>> shift)

/-- The message, a byte with the highest bit alone, zeros, and the length of
    the message in bits: whole blocks of 64 bytes. -/
def pad (message : List UInt8) : List UInt8 :=
  let zeros := (119 - message.length % 64) % 64
  message ++ 0x80 :: List.replicate zeros 0 ++ lengthBytes (8 * message.length)

/-- The SHA-256 digest of a message. -/
def sha256 (message : List UInt8) : List UInt8 :=
  let padded := pad message
  (absorb (padded.length / 64) .start padded).bytes

theorem length_sha256 (message : List UInt8) : (sha256 message).length = 32 := rfl

end Loyalty.Digest
