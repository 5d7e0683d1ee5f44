import Loyalty.Ledger.Store
import Loyalty.Order.Number

/-!
# Spending points

A user spends points on the number of an order elsewhere, which may be used
once only. The number is checked first, then the amount.
-/

namespace Loyalty.Store

/-- Spends points of a user on an order number. -/
def spend (s : Store) (raw : String) (amount : Amount) (user : Int) (now : Timestamp) :
    Outcome Int × Store :=
  match OrderNumber.read raw with
  | .error cause => (fails (.invalid cause), s)
  | .ok number =>
    match amount.checkSpend with
    | .error cause => (fails (.invalid cause), s)
    | .ok () => s.withdraw number amount user now

end Loyalty.Store
