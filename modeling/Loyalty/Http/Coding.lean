import Loyalty.Http.Message
import Loyalty.Number.Power
import Loyalty.Text.Blank

/-!
# Packed responses

A response whose body has 32 bytes or more is packed with gzip if the client
accepts that. A client names the codings that it accepts with weights between
0 and 1, in thousandths: a coding of weight 0 is not accepted, one without a
weight has weight 1, and of those that are known the one with the largest
weight is taken. Only gzip and leaving the body as it is are known; gzip goes
first.
-/

namespace Loyalty.Http

open Loyalty.Text

/-- A way to pack a body. -/
inductive Coding
  | identity
  | gzip
  deriving DecidableEq

namespace Coding

/-- The coding of some name, in any case. -/
def ofName? (name : List Char) : Option Coding :=
  let name := name.map Char.toLower
  if name = "gzip".toList || name = "x-gzip".toList then some .gzip
  else if name = "identity".toList then some .identity
  else none

/-- A weight in thousandths. -/
def weight? : List Char → Option Nat
  | q :: '=' :: whole :: rest =>
    if q != 'q' && q != 'Q' then none
    else
      match digitValue? whole, rest with
      | some w, [] => if w ≤ 1 then some (w * 1000) else none
      | some w, '.' :: ds =>
        if w > 1 || ds.length > 3 then none
        else
          match ds, digitsValue? ds with
          | [], _ => some (w * 1000)
          | _, some n =>
            let total := w * 1000 + n * tenTo (3 - ds.length)
            if total ≤ 1000 then some total else none
          | _, none => none
      | _, _ => none
  | _ => none

/-- One entry of the list of codings that a client accepts. -/
def entry? (cs : List Char) : Option (Coding × Nat) :=
  match splitFirst ';' cs with
  | some (name, weight) => do
    let coding ← ofName? (trimChars name)
    let weight ← weight? (trimChars weight)
    return (coding, weight)
  | none => (ofName? (trimChars cs)).map (·, 1000)

/-- The codings that a client accepts, with their weights. -/
def accepted (r : Request) : List (Coding × Nat) :=
  ((r.headerValues "accept-encoding").filterMap Request.printable?).flatMap fun value =>
    ((splitAll ',' value.toList).filterMap entry?).filter (·.2 > 0)

/-- Whether responses to a request are packed with gzip. -/
def takesGzip (r : Request) : Bool :=
  let weightOf (c : Coding) : Nat :=
    (((accepted r).filter (·.1 = c)).map (·.2)).foldl max 0
  weightOf .gzip > 0 && weightOf .identity ≤ weightOf .gzip

/-- The size of the smallest body, in bytes, that is packed. -/
def leastPacked : Nat := 32

/-- Packs a response, if that is to be done. -/
def pack (r : Request) (response : Response) : Response :=
  if takesGzip r && response.body.utf8ByteSize ≥ leastPacked then
    response.withHeader "content-encoding" "gzip"
  else response

end Coding
end Loyalty.Http
