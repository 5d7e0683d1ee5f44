import Loyalty.Digest.Sha256

/-!
# Keyed digests

HMAC-SHA-256. The key enters a digest only as a block of 64 bytes
(`keyBlock`): a longer key is replaced by its digest, and a shorter one is
filled up with zeros, so keys that differ only by zeros at the end sign alike.
-/

namespace Loyalty.Digest

/-- The block of 64 bytes that a key stands for. -/
def keyBlock (key : List UInt8) : List UInt8 :=
  let short := if key.length > 64 then sha256 key else key
  short ++ List.replicate (64 - short.length) 0

/-- The block of a key, if keys of its length have one; keys of any length do. -/
def block? (key : List UInt8) : Option (List UInt8) := some (keyBlock key)

/-- The signature of a message under a key that is given as its block. -/
def signBlock (block message : List UInt8) : List UInt8 :=
  sha256 (block.map (· ^^^ 0x5C) ++ sha256 (block.map (· ^^^ 0x36) ++ message))

/-- The signature of a message under a key: 32 bytes. -/
def hmac (key message : List UInt8) : List UInt8 := signBlock (keyBlock key) message

theorem length_hmac (key message : List UInt8) : (hmac key message).length = 32 := rfl

/-- Whether two lists of bytes are equal, by gathering the differences of all
    their bytes so that the time taken does not tell where they differ. -/
def sameBytes (a b : List UInt8) : Bool :=
  a.length == b.length && (a.zip b).foldl (fun diff (x, y) => diff ||| (x ^^^ y)) 0 == 0

end Loyalty.Digest
