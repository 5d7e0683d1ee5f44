import Loyalty.Failure
import Loyalty.Text.Blank

/-!
# Logins and passwords

A login is a text of one to 128 bytes without blanks around it, which are
dropped when it is read. A password is any text that is not empty.
-/

namespace Loyalty.Credentials

open Loyalty.Text

/-- The most bytes that a login may have. -/
def maxLoginBytes : Nat := 128

/-- Reads a login that is given with a password. -/
def read (login password : String) : Except Invalid String :=
  let login := trim login
  if login.isEmpty then .error .loginEmpty
  else if login.utf8ByteSize > maxLoginBytes then .error .loginLong
  else if password.isEmpty then .error .passwordEmpty
  else .ok login

end Loyalty.Credentials
