import Loyalty.Text.Blank
import Loyalty.Text.Number
import Loyalty.Text.Split

/-!
# Where a token travels

A token travels in the cookie `auth`, or as a bearer token. The cookie goes
before the bearer token.
-/

namespace Loyalty.Session

open Loyalty.Text

/-- The name of the cookie. -/
def cookieName : List Char := "auth".toList

/-- The cookie that carries a token for some seconds. -/
def cookie (token : String) (lifetime : Nat) : String :=
  .ofList (cookieName ++ '=' :: token.toList ++
    "; Path=/; HttpOnly; SameSite=Strict; Max-Age=".toList ++ digits lifetime)

/-- The bearer token as it is sent. -/
def bearer (token : String) : String := "Bearer " ++ token

/-- The value of the first cookie of some name in a list of cookies. -/
def cookieValue? (name : List Char) (cookies : String) : Option String :=
  (splitAll ';' cookies.toList).findSome? fun pair => do
    let (key, value) ← splitFirst '=' pair
    if trimChars key = name then some (.ofList (trimChars value)) else none

/-- The token behind the word `Bearer`. -/
def bearerToken? (authorization : String) : Option String := do
  let cs := authorization.toList
  let token ← dropStart? "Bearer ".toList cs <|> dropStart? "bearer ".toList cs
  return .ofList (trimChars token)

/-- The token in these two headers. -/
def token? (cookies authorization : Option String) : Option String :=
  cookies.bind (cookieValue? cookieName) <|> authorization.bind bearerToken?

end Loyalty.Session
