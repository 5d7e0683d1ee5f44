import Loyalty.Account.Access
import Loyalty.Ledger.Settlement
import Loyalty.Ledger.Spending
import Loyalty.Ledger.Submission

/-!
# Histories of a store

What can be done to a store, told as data, so that a history is a list. An
`Operation` is one of the store itself, with any arguments. A `Deed` is one of
those that users and the reconciliation do, with any arguments too: the order
that is claimed, released or settled may be as the store has it, or had it, or
none of the store's at all.
-/

namespace Loyalty.Store

/-- An operation of the store. -/
inductive Operation
  | createUser (login passwordHash : String)
  | createOrder (number : String) (user : Int) (now : Timestamp)
  | mark (id : Int) (status : OrderStatus)
  | credit (order : Order) (amount : Amount)
  | withdraw (number : String) (amount : Amount) (user : Int) (now : Timestamp)
  | failCredits (count : Nat)
  | failMarks (status : OrderStatus) (count : Nat)
  deriving DecidableEq

/-- The store after an operation. -/
def operate (s : Store) : Operation → Store
  | .createUser login passwordHash => (s.createUser login passwordHash).2
  | .createOrder number user now => (s.createOrder number user now).2
  | .mark id status => (s.mark id status).2
  | .credit order amount => (s.credit order amount).2
  | .withdraw number amount user now => (s.withdraw number amount user now).2
  | .failCredits count => s.failCredits count
  | .failMarks status count => s.failMarks status count

/-- The store after some operations. -/
def operateAll (s : Store) (operations : List Operation) : Store := operations.foldl operate s

/-- What users and the reconciliation do. -/
inductive Deed
  | register (rounds : Nat) (salt : List UInt8) (login password : String)
  | submit (raw : String) (user : Int) (now : Timestamp)
  | spend (raw : String) (amount : Amount) (user : Int) (now : Timestamp)
  | claim (order : Order)
  | release (order : Order)
  | settle (order : Order) (reply : Reply)
  | releaseInFlight
  | failCredits (count : Nat)
  | failMarks (status : OrderStatus) (count : Nat)

/-- The store after a deed. -/
def perform (s : Store) : Deed → Store
  | .register rounds salt login password => (s.register rounds salt login password).2
  | .submit raw user now => (s.submit raw user now).2
  | .spend raw amount user now => (s.spend raw amount user now).2
  | .claim order => (s.claim order).2
  | .release order => (s.release order).2
  | .settle order reply => (s.settle order reply).2
  | .releaseInFlight => s.releaseInFlight.2
  | .failCredits count => s.failCredits count
  | .failMarks status count => s.failMarks status count

/-- The store after some deeds. -/
def performAll (s : Store) (deeds : List Deed) : Store := deeds.foldl perform s

end Loyalty.Store
