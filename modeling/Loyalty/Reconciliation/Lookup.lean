import Loyalty.Authority.Callers
import Loyalty.Authority.Client
import Loyalty.Reconciliation.System

/-!
# Workers as callers of the authority

Here the workers of a reconciliation ask the authority over one shared
cooldown. A worker that has taken an order calls, waits as long as a pause
makes it wait, sends its request, and settles the order by what comes of that.
The shutdown signal is seen by workers between two orders only.
-/

namespace Loyalty.Reconciliation

/-- A reconciliation, and its workers as callers. -/
structure Lookup where
  system : System
  callers : Callers

/-- What happens next. -/
inductive LookupMove
  /-- a move of the reconciliation, other than an answer of the authority -/
  | system (move : Move)
  /-- time passes, or a worker makes a step on its way to the authority -/
  | caller (move : CallerMove)
  /-- the request of a worker ends -/
  | deliver (worker : Nat) (delivery : Delivery)

namespace Lookup

/-- A store without a reconciliation, and a cooldown. -/
def start (store : Store) (now : Nat) (cooldown : Cooldown) : Lookup :=
  ⟨.start store, .start now cooldown⟩

/-- Whether a worker has an order that it wants resolved. -/
def isResolving (l : Lookup) (worker : Nat) : Bool :=
  match l.system.workers[worker]? with
  | some (.resolving _) => true
  | _ => false

/-- Whether a move of the reconciliation is left to the authority. -/
def isAnswer : Move → Bool
  | .worker _ (.answer _) => true
  | _ => false

/-- Whether a move is a step of a worker on its way. -/
def isStep (l : Lookup) : CallerMove → Bool
  | .pass _ => true
  | .arrive i => l.isResolving i
  | .look _ | .wake _ | .clear _ | .send _ => true
  | .trip _ | .answer .. => false

/-- The lookup after a move, if it can be made. -/
def step? (authority : AuthoritySettings) (l : Lookup) :
    LookupMove → Option Lookup
  | .system move =>
    if isAnswer move then none
    else (l.system.step? move).map fun system => { l with system }
  | .caller move =>
    if l.isStep move then (l.callers.step? move).map fun callers => { l with callers }
    else none
  | .deliver worker delivery => do
    let (reply, pause) := authority.interpret delivery
    let callers ← l.callers.step? (.answer worker pause)
    let system ← l.system.step? (.worker worker (.answer reply))
    return { system, callers }

/-- The lookup after some moves, if they can be made one after another. -/
def run? (authority : AuthoritySettings) (l : Lookup) :
    List LookupMove → Option Lookup
  | [] => some l
  | m :: ms => (l.step? authority m).bind fun l => l.run? authority ms

end Lookup
end Loyalty.Reconciliation
