import Loyalty.Failure

/-!
# What the authority answers

The authority says of an order that it is registered, processing, processed or
invalid, or something that the ledger does not know, and how many points a
processed order earns.
-/

namespace Loyalty

/-- The status that the authority gives an order. -/
inductive ResolutionStatus
  | registered
  | processing
  | processed
  | invalid
  /-- a status that the ledger does not know -/
  | unknown (name : String)
  deriving DecidableEq, Repr

/-- The status of that name. -/
def ResolutionStatus.ofText (name : String) : ResolutionStatus :=
  if name = "REGISTERED" then registered
  else if name = "PROCESSING" then processing
  else if name = "PROCESSED" then processed
  else if name = "INVALID" then invalid
  else unknown name

/-- What the authority says about an order. -/
structure Resolution where
  order : String
  status : ResolutionStatus
  accrual : Option Amount
  deriving DecidableEq

/-- The points that a processed order earns: none if none are named. -/
def Resolution.points (r : Resolution) : Amount := r.accrual.getD .zero

/-- The answer to one lookup at the authority. -/
abbrev Reply := Except AuthorityFailure Resolution

end Loyalty
