import Loyalty.Digest.Pbkdf2
import Loyalty.Failure
import Loyalty.Text.Base64
import Loyalty.Text.Split
import Loyalty.Text.Utf8

/-!
# Stored passwords

A password is stored as `pbkdf2-sha256$rounds$salt$digest`, the salt and the
digest in base 64. The rounds are those of the stored text, so that new
passwords can take more without making the old ones useless.
-/

namespace Loyalty.Password

open Loyalty.Text

/-- The name of the way passwords are stored. -/
def scheme : List Char := "pbkdf2-sha256".toList

/-- The bytes of a salt. -/
def saltLength : Nat := 16

/-- The digest of a password. -/
def derive (password : String) (salt : List UInt8) (rounds : Nat) : List UInt8 :=
  Digest.pbkdf2 (bytes password) salt rounds

/-- What is stored for a password. At least one round is made. -/
def hash (password : String) (salt : List UInt8) (rounds : Nat) : String :=
  let rounds := max rounds 1
  .ofList (scheme ++ '$' :: digits rounds ++ '$' :: Base64.encode salt ++
    '$' :: Base64.encode (derive password salt rounds))

/-- Whether a password is the stored one. -/
def verify (password stored : String) : Except InternalFault Bool :=
  match splitAll '$' stored.toList with
  | [name, rounds, salt, digest] =>
    if name ≠ scheme then .error (.passwordSchemeUnknown (.ofList name))
    else
      match (natural? word32Max rounds).filter (· > 0) with
      | none => .error .passwordHashMalformed
      | some rounds =>
        match Base64.decode? salt with
        | none => .error .passwordSaltMalformed
        | some salt =>
          match Base64.decode? digest with
          | none => .error .passwordDigestMalformed
          | some digest => .ok (Digest.sameBytes (derive password salt rounds) digest)
  | _ => .error .passwordHashMalformed

end Loyalty.Password
