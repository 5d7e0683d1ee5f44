import Loyalty.Authority.Resolution
import Loyalty.Ledger.Store

/-!
# Settling orders

What the authority answers about an order settles it: its user is credited,
or it is refused, or it is given back, to be asked about again. Only a definite
answer is final. A credit or a refusal that the store does not take is followed
by giving the order back, so that the order stays in hand only if that fails
too.
-/

namespace Loyalty

/-- What becomes of an order. -/
inductive Settlement
  /-- processed, with these points for its user -/
  | credit (points : Amount)
  /-- invalid -/
  | refuse
  /-- new again -/
  | giveBack
  deriving DecidableEq

/-- What an answer of the authority makes of an order. -/
def Settlement.ofReply : Reply → Settlement
  | .error .notRegistered => .refuse
  | .error _ => .giveBack
  | .ok r =>
    match r.status with
    | .processed => if (r.points.checkCredit).isOk then .credit r.points else .giveBack
    | .invalid => .refuse
    | .registered | .processing | .unknown _ => .giveBack

namespace Store

/-- Marks an order as taken up. -/
def claim (s : Store) (order : Order) : Outcome Unit × Store := s.mark order.id .processing

/-- Makes an order new again. -/
def release (s : Store) (order : Order) : Outcome Unit × Store := s.mark order.id .new

/-- Writes down what becomes of an order. -/
def write (s : Store) (order : Order) : Settlement → Outcome Unit × Store
  | .credit points => s.credit order points
  | .refuse => s.mark order.id .invalid
  | .giveBack => s.release order

/-- Gives back an order whose settlement the store did not take, and reports
    the failure; if that fails too, its failure. -/
def revert (s : Store) (order : Order) (failure : Failure) : Outcome Settlement × Store :=
  match s.release order with
  | (.ok (), s) => (fails failure, s)
  | (.error e, s) => (.error e, s)

/-- Settles an order by an answer of the authority. -/
def settle (s : Store) (order : Order) (reply : Reply) : Outcome Settlement × Store :=
  let settlement := Settlement.ofReply reply
  match s.write order settlement with
  | (.ok (), s) => (.ok settlement, s)
  | (.error .overflow, s) => (.error .overflow, s)
  | (.error (.failure f), s) =>
    if settlement = .giveBack then (fails f, s) else s.revert order f

/-- Makes some orders new again, up to the first for which that fails. -/
def releaseAll (s : Store) : List Order → Outcome Unit × Store
  | [] => (.ok (), s)
  | order :: rest =>
    match s.release order with
    | (.ok (), s) => s.releaseAll rest
    | (.error e, s) => (.error e, s)

/-- Makes every order that is taken up new again, and counts them. -/
def releaseInFlight (s : Store) : Outcome Nat × Store :=
  let stranded := s.ordersIn .processing
  match s.releaseAll stranded with
  | (.ok (), s) => (.ok stranded.length, s)
  | (.error e, s) => (.error e, s)

end Store
end Loyalty
