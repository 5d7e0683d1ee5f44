import Loyalty.Ledger.Store
import Loyalty.Order.Number

/-!
# Submitting orders

A user submits the number of an order. A number that is new makes a new order;
one that the same user submitted before is known; one of another user is
refused.
-/

namespace Loyalty

/-- The result of submitting an order number. -/
inductive Submission
  /-- a new order was made -/
  | created (id : Int)
  /-- the user already has an order of that number -/
  | known (id : Int)
  deriving DecidableEq, Repr

/-- The order that was submitted. -/
def Submission.order : Submission → Int
  | created id | known id => id

namespace Store

/-- Submits an order number for a user. -/
def submit (s : Store) (raw : String) (user : Int) (now : Timestamp) :
    Outcome Submission × Store :=
  match OrderNumber.read raw with
  | .error cause => (fails (.invalid cause), s)
  | .ok number =>
    match s.createOrder number user now with
    | (.ok order, s) => (.ok (.created order.id), s)
    | (.error (.failure (.orderExists _)), s) =>
      match s.findOrder? number with
      | none => (fails (.orderNotFound number), s)
      | some order =>
        if order.user = user then (.ok (.known order.id), s)
        else (fails (.orderOfAnotherUser number), s)
    | (.error e, s) => (.error e, s)

end Store
end Loyalty
