import Loyalty.Authority.Cooldown
import Loyalty.Http.Message
import Loyalty.Json.Document
import Loyalty.Text.Blank

/-!
# Asking the authority

An order is looked up by one request. Of the responses, 200 brings a
resolution, 204 says that the order is not registered, and 429 asks for a
pause. The length of the pause is a number of seconds in a header; where there
is none, a default is taken, and there is a longest pause. Everything else is a
failure that may pass.
-/

namespace Loyalty

open Loyalty.Text

/-- How the authority is reached. -/
structure AuthoritySettings where
  baseUrl : String
  requestTimeout : Span
  /-- the pause where a response names none -/
  defaultPause : Span
  /-- the longest pause -/
  longestPause : Span
  deriving DecidableEq

/-- How a request ends. -/
inductive Delivery
  /-- no response comes -/
  | failed (reason : String)
  /-- a response comes, its body perhaps not -/
  | response (status : Nat) (headers : List (String × List UInt8)) (body : Option (List UInt8))

namespace AuthoritySettings

/-- A text without slashes at its end. -/
def withoutSlashes (cs : List Char) : List Char := (cs.reverse.dropWhile (· = '/')).reverse

/-- The address of the authority, without slashes at its end. -/
def base (a : AuthoritySettings) : String := .ofList (withoutSlashes a.baseUrl.toList)

/-- The address of an order. -/
def orderUrl (a : AuthoritySettings) (number : String) : String :=
  a.base ++ "/api/orders/" ++ number

/-- The whole seconds that a header names. -/
def secondsOf? (value : List UInt8) : Option Nat := do
  natural? word64Max (trimChars (← Http.Request.printable? value).toList)

/-- The pause that a response asks for. -/
def pause (a : AuthoritySettings) (headers : List (String × List UInt8)) : Span :=
  let asked :=
    match (headers.lookup "retry-after").bind secondsOf? with
    | some n => Span.seconds n
    | none => a.defaultPause
  if asked > a.longestPause then a.longestPause else asked

/-- The text of a body; none if the body did not come. -/
def detail (body : Option (List UInt8)) : String := (body.map ofBytesLossy).getD ""

/-- What a request brings, and the pause that it asks for. -/
def interpret (a : AuthoritySettings) : Delivery → Reply × Option Span
  | .failed reason => (.error (.unavailable reason), none)
  | .response status headers body =>
    if status = 200 then
      match body with
      | none => (.error (.unavailable "failed to read body"), none)
      | some content =>
        match Json.readWhole Json.readResolution (bytes (ofBytesLossy content)) with
        | .ok resolution => (.ok resolution, none)
        | .error _ => (.error (.unexpectedResponse status "malformed body"), none)
    else if status = 204 then (.error .notRegistered, none)
    else if status = 429 then
      let pause := a.pause headers
      (.error (.rateLimited pause), some pause)
    else if 500 ≤ status ∧ status < 600 then
      (.error (.unavailable ("status " ++ toString status)), none)
    else (.error (.unexpectedResponse status (detail body)), none)

end AuthoritySettings
end Loyalty
