import Loyalty.Digest.Hmac
import Loyalty.Failure
import Loyalty.Number.Power
import Loyalty.Text.Hex
import Loyalty.Text.Split
import Loyalty.Text.Utf8

/-!
# Session tokens

A token is `user.expiry.signature`: a user, the second at which the token
expires, and the keyed digest of the text before the last point, in
hexadecimal. A token is good as long as the time is before its expiry. Whoever
reads a token takes the signature first, so that nothing is read from a text
that was not signed.

An expiry that 64 bits cannot hold wraps around in a ledger that is built for
release. One that is built to check its sums breaks off whoever makes the token.
-/

namespace Loyalty

open Loyalty.Text

/-- What comes of a sum of seconds that 64 bits cannot hold. -/
inductive Overflow
  /-- it wraps around, as in a build for release -/
  | wraps
  /-- whoever adds it up is broken off, as in a build that checks its sums -/
  | breaksOff
  deriving DecidableEq, Repr

/-- What tokens are made with: a secret, and how many seconds they last. -/
structure SessionKeys where
  secret : List UInt8
  lifetime : Nat
  overflow : Overflow
  deriving DecidableEq

namespace SessionKeys

/-- The keys for a secret text in a build for release. -/
def ofSecret (secret : String) (lifetime : Nat) : SessionKeys := ⟨bytes secret, lifetime, .wraps⟩

/-- The keyed digest of a text. -/
def sign (keys : SessionKeys) (payload : List Char) : List UInt8 :=
  Digest.hmac keys.secret (bytes (.ofList payload))

/-- The second at which a token made `now` expires, in 64 bits. -/
def expiry (keys : SessionKeys) (now : Int) : Int := (now + keys.lifetime).bmod (twoTo 64)

/-- The signed part of a token. -/
def payload (user expiry : Int) : List Char :=
  integerChars user ++ '.' :: integerChars expiry

/-- A token for a user. -/
def issue (keys : SessionKeys) (user now : Int) : String :=
  let text := payload user (keys.expiry now)
  .ofList (text ++ '.' :: toHex (keys.sign text))

/-- Whether 64 bits can hold the second at which a token made `now` expires. The
    lifetime is put into 64 bits with a sign first, and wraps around there. -/
def fits (keys : SessionKeys) (now : Int) : Bool :=
  let expiry := now + (keys.lifetime : Int).bmod (twoTo 64)
  int64Min ≤ expiry && expiry ≤ int64Max

/-- Whether a token can be made `now`. -/
def issues (keys : SessionKeys) (now : Int) : Bool := keys.overflow = .wraps || keys.fits now

/-- The keyed digest of a text, or the report that the secret cannot key one. -/
def trySign (keys : SessionKeys) (payload : List Char) : Outcome (List UInt8) :=
  match Digest.block? keys.secret with
  | some block => .ok (Digest.signBlock block (bytes (.ofList payload)))
  | none => fails (.internal (.stated "HMAC init failed: Invalid Length"))

/-- Makes a token for a user, or tells what keeps it from being made. -/
def tryIssue (keys : SessionKeys) (user now : Int) : Outcome String :=
  if keys.issues now then do
    let text := payload user (keys.expiry now)
    let signature ← keys.trySign text
    .ok (.ofList (text ++ '.' :: toHex signature))
  else .error .overflow

/-- Reads the signed part of a token at some time. -/
def readPayload (text : List Char) (now : Int) : Except TokenFault Int :=
  match splitFirst '.' text with
  | none => .error .malformed
  | some (user, expiry) =>
    match int64? user, int64? expiry with
    | some user, some expiry => if expiry ≤ now then .error .expired else .ok user
    | _, _ => .error .malformed

/-- The user that a token was made for. -/
def verify (keys : SessionKeys) (token : String) (now : Int) : Except TokenFault Int :=
  match splitLast '.' token.toList with
  | none => .error .malformed
  | some (text, signature) =>
    match ofHex? signature with
    | none => .error .malformedSignature
    | some signature =>
      if Digest.sameBytes (keys.sign text) signature then readPayload text now
      else .error .wrongSignature

end SessionKeys
end Loyalty
