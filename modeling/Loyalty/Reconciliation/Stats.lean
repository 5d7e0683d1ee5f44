import Loyalty.Ledger.Settlement

/-!
# Counts of a reconciliation

What a reconciliation counts while it runs: its cycles, the orders that it gave
to workers, how the workers ended with them, and the orders that it made new
again itself.
-/

namespace Loyalty.Reconciliation

/-- The counts of a reconciliation. -/
structure Stats where
  cycles : Nat
  dispatched : Nat
  processed : Nat
  invalidated : Nat
  retried : Nat
  failed : Nat
  released : Nat
  deriving DecidableEq, Repr, Inhabited

namespace Stats

/-- Nothing is counted yet. -/
def zero : Stats := ⟨0, 0, 0, 0, 0, 0, 0⟩

/-- Counts an order that a worker settled. -/
def settled (n : Stats) : Settlement → Stats
  | .credit _ => { n with processed := n.processed + 1 }
  | .refuse => { n with invalidated := n.invalidated + 1 }
  | .giveBack => { n with retried := n.retried + 1 }

/-- Counts an order that a worker could not settle. -/
def failure (n : Stats) : Stats := { n with failed := n.failed + 1 }

end Stats
end Loyalty.Reconciliation
