import Loyalty.Amount.Rules
import Loyalty.Amount.Sum

/-!
# Balances

A balance holds the points that a user can spend and those already spent.
Points come in by a credit and are moved from the one to the other by a debit,
which is refused when it asks for more than there is.
-/

namespace Loyalty

/-- The points of one user. -/
structure Balance where
  current : Amount
  withdrawn : Amount
  deriving DecidableEq, Inhabited

namespace Balance

/-- The balance of a new user. -/
def zero : Balance := ⟨.zero, .zero⟩

/-- Adds an amount to what can be spent. -/
def credit (b : Balance) (amount : Amount) : Outcome Balance :=
  match amount.checkCredit with
  | .error cause => fails (.invalid cause)
  | .ok () =>
    match b.current.add? amount with
    | some current => .ok { b with current }
    | none => .error .overflow

/-- Spends an amount, if there is enough. The balance beside the outcome is the
    one that is left: where the second sum overflows, the first is already
    made. -/
def debit (b : Balance) (amount : Amount) : Outcome Unit × Balance :=
  if amount > b.current then (fails (.insufficientBalance amount b.current), b)
  else
    match b.current.sub? amount with
    | none => (.error .overflow, b)
    | some current =>
      match b.withdrawn.add? amount with
      | none => (.error .overflow, { b with current })
      | some withdrawn => (.ok (), ⟨current, withdrawn⟩)

end Balance
end Loyalty
