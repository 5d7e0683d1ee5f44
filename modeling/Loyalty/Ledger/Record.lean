import Loyalty.Amount.Basic
import Loyalty.Order.Status
import Loyalty.Time.Timestamp

/-!
# What the ledger keeps

Users, the orders for which they are to be credited, and their withdrawals.
-/

namespace Loyalty

/-- A registered user. -/
structure User where
  id : Int
  login : String
  passwordHash : String
  deriving DecidableEq, Inhabited

/-- An order for which its user is to be credited. -/
structure Order where
  id : Int
  user : Int
  number : String
  status : OrderStatus
  /-- what was credited, once the order is processed -/
  accrual : Option Amount
  createdAt : Timestamp
  deriving DecidableEq, Inhabited

/-- Points that a user spent on an order elsewhere. -/
structure Withdrawal where
  id : Int
  user : Int
  number : String
  amount : Amount
  createdAt : Timestamp
  deriving DecidableEq, Inhabited

/-- Whether one order is listed before another: the later first, and of two of
    the same time the one with the larger number. -/
def Order.precedes (a b : Order) : Bool :=
  if a.createdAt = b.createdAt then b.id ≤ a.id else b.createdAt.le a.createdAt

end Loyalty
