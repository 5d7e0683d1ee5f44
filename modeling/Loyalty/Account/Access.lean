import Loyalty.Account.Credentials
import Loyalty.Account.Password
import Loyalty.Ledger.Store

/-!
# Registering and logging in

A user registers with a login and a password and logs in with the same. What
is stored of the password depends on a salt that whoever registers the user
draws.
-/

namespace Loyalty.Store

/-- Adds a user with a login and a password. -/
def register (s : Store) (rounds : Nat) (salt : List UInt8) (login password : String) :
    Outcome User × Store :=
  match Credentials.read login password with
  | .error cause => (fails (.invalid cause), s)
  | .ok login => s.createUser login (Password.hash password salt rounds)

/-- The user with this login and this password. -/
def authenticate (s : Store) (login password : String) : Outcome User :=
  match Credentials.read login password with
  | .error cause => fails (.invalid cause)
  | .ok login =>
    match s.findUser? login with
    | none => fails .wrongCredentials
    | some user =>
      match Password.verify password user.passwordHash with
      | .error fault => fails (.internal fault)
      | .ok true => .ok user
      | .ok false => fails .wrongCredentials

end Loyalty.Store
