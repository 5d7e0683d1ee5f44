import Loyalty.Digest.Hmac

/-!
# Slow digests of passwords

The first 32 bytes of PBKDF2 with HMAC-SHA-256: the signatures of the salt, of
that signature, and so on for the given number of rounds, added bit by bit.
-/

namespace Loyalty.Digest

/-- The bitwise sum of two lists of bytes. -/
def xorBytes (a b : List UInt8) : List UInt8 := a.zipWith (· ^^^ ·) b

/-- `rounds` more signatures, each of the one before it, added to `total`. -/
def stretch (block : List UInt8) : Nat → List UInt8 → List UInt8 → List UInt8
  | 0, _, total => total
  | rounds + 1, last, total =>
    let next := signBlock block last
    stretch block rounds next (xorBytes total next)

/-- The digest of a password with a salt: 32 bytes. -/
def pbkdf2 (password salt : List UInt8) (rounds : Nat) : List UInt8 :=
  let block := keyBlock password
  let first := signBlock block (salt ++ [0, 0, 0, 1])
  stretch block (rounds - 1) first first

end Loyalty.Digest
