/-!
# The shutdown signal

One owner asks for the shutdown, any number of listeners see it. The request
is never taken back. An owner that goes away without a request leaves its
listeners cancelled all the same, though none of them sees a request.
-/

namespace Loyalty

/-- The state of a shutdown signal. -/
structure Shutdown where
  requested : Bool
  /-- whether the owner is still there -/
  owned : Bool
  deriving DecidableEq, Repr, Inhabited

namespace Shutdown

/-- Nothing is requested. -/
def start : Shutdown := ⟨false, true⟩

/-- The owner asks for the shutdown. -/
def request (s : Shutdown) : Shutdown := if s.owned then { s with requested := true } else s

/-- The owner goes away. -/
def abandon (s : Shutdown) : Shutdown := { s with owned := false }

/-- Whether listeners that wait for the shutdown wait no longer. -/
def cancelled (s : Shutdown) : Bool := s.requested || !s.owned

end Shutdown
end Loyalty
