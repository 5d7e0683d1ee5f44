import Loyalty.Time.Span

/-!
# The cooldown

When the authority asks for a pause, a deadline is set, before which nobody
should ask it again. A later request for a pause can only put the deadline off.
Times are counted in nanoseconds from some beginning.
-/

namespace Loyalty

/-- The deadline before which the authority is left alone. -/
structure Cooldown where
  deadline : Option Nat
  deriving DecidableEq, Repr, Inhabited

namespace Cooldown

/-- No pause is asked for. -/
def idle : Cooldown := ⟨none⟩

/-- The first time that a clock cannot show. -/
def clockEnd : Nat := 9223372036854775807 * 1000000000

/-- The pause that is made when the one asked for would end beyond the clock. -/
def longestPause : Span := .seconds (365 * 24 * 60 * 60)

/-- The time at which a pause ends. -/
def pauseEnd (now : Nat) (pause : Span) : Nat :=
  if now + pause.nanoseconds < clockEnd then now + pause.nanoseconds
  else now + longestPause.nanoseconds

/-- Sets a pause. -/
def trip (c : Cooldown) (now : Nat) (pause : Span) : Cooldown :=
  match c.deadline with
  | some d => if d ≥ pauseEnd now pause then c else ⟨some (pauseEnd now pause)⟩
  | none => ⟨some (pauseEnd now pause)⟩

/-- What is left of the pause. -/
def remaining? (c : Cooldown) (now : Nat) : Option Span :=
  match c.deadline with
  | some d => if now ≤ d then some ⟨d - now⟩ else none
  | none => none

/-- Forgets a deadline that has passed. -/
def clear (c : Cooldown) (now : Nat) : Cooldown :=
  match c.deadline with
  | some d => if d ≤ now then idle else c
  | none => c

end Cooldown
end Loyalty
