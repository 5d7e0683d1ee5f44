import Loyalty.Authority.Cooldown

/-!
# Callers of the authority

All callers of the authority share one cooldown. A caller that finds no pause
is let through. One that finds a pause waits at a gate, which holds one caller
at a time, the others behind it in the order in which they came. Inside the
gate a caller looks at the deadline and sleeps until it, as often as it finds
the deadline in the future; it then forgets the deadline if that has passed,
and is let through. A caller that was let through sends its request, and the
answer may set a pause.

Each of these actions is one move (`CallerMove`): whatever the other callers do
may come between any two of them.
-/

namespace Loyalty

/-- What a caller is about. -/
inductive CallerPhase
  /-- does not call -/
  | away
  /-- waits at the gate -/
  | queued
  /-- is inside the gate and will look at the deadline -/
  | looking
  /-- is inside the gate and sleeps until that time -/
  | sleeping (wakeAt : Nat)
  /-- is inside the gate and found no deadline in the future -/
  | clearing
  /-- was let through -/
  | ready
  /-- waits for the answer to its request -/
  | asking
  deriving DecidableEq, Repr

/-- The callers, what they share, and the requests that they sent. -/
structure Callers where
  now : Nat
  cooldown : Cooldown
  /-- who is at the gate, the one inside first -/
  gate : List Nat
  phase : Nat → CallerPhase
  /-- the time of every request, the last first -/
  requests : List Nat

/-- One action of a caller, or the passing of time. -/
inductive CallerMove
  /-- time passes -/
  | pass (time : Span)
  /-- someone sets a pause -/
  | trip (pause : Span)
  /-- a caller comes and looks whether there is a pause -/
  | arrive (caller : Nat)
  /-- the caller inside the gate looks at the deadline -/
  | look (caller : Nat)
  /-- the caller inside the gate wakes up -/
  | wake (caller : Nat)
  /-- the caller inside the gate forgets a deadline that has passed, and goes -/
  | clear (caller : Nat)
  /-- a caller that was let through sends its request -/
  | send (caller : Nat)
  /-- a caller gets its answer, which may ask for a pause -/
  | answer (caller : Nat) (pause : Option Span)
  deriving DecidableEq

namespace Callers

/-- Nobody calls yet. -/
def start (now : Nat) (cooldown : Cooldown) : Callers :=
  { now, cooldown, gate := [], phase := fun _ => .away, requests := [] }

/-- The callers with one of them in another phase. -/
def setPhase (s : Callers) (i : Nat) (p : CallerPhase) : Callers :=
  { s with phase := fun j => if j = i then p else s.phase j }

/-- The callers after the one inside the gate goes and the next comes in. -/
def openGate (s : Callers) : Callers :=
  match s.gate with
  | [] | [_] => { s with gate := [] }
  | _ :: next :: rest => ({ s with gate := next :: rest }).setPhase next .looking

/-- The callers after a move, if it can be made. -/
def step? (s : Callers) : CallerMove → Option Callers
  | .pass time => some { s with now := s.now + time.nanoseconds }
  | .trip pause => some { s with cooldown := s.cooldown.trip s.now pause }
  | .arrive i =>
    if s.phase i = .away then
      if s.cooldown.remaining? s.now = none then some (s.setPhase i .ready)
      else if s.gate.isEmpty then some ({ s with gate := [i] }.setPhase i .looking)
      else some ({ s with gate := s.gate ++ [i] }.setPhase i .queued)
    else none
  | .look i =>
    if s.phase i = .looking then
      match s.cooldown.deadline with
      | some d => some (s.setPhase i (if d > s.now then .sleeping d else .clearing))
      | none => some (s.setPhase i .clearing)
    else none
  | .wake i =>
    match s.phase i with
    | .sleeping wakeAt => if wakeAt ≤ s.now then some (s.setPhase i .looking) else none
    | _ => none
  | .clear i =>
    if s.phase i = .clearing then
      some (({ s with cooldown := s.cooldown.clear s.now }.setPhase i .ready).openGate)
    else none
  | .send i =>
    if s.phase i = .ready then
      some ({ s with requests := s.now :: s.requests }.setPhase i .asking)
    else none
  | .answer i pause =>
    if s.phase i = .asking then
      let s := s.setPhase i .away
      match pause with
      | some pause => some { s with cooldown := s.cooldown.trip s.now pause }
      | none => some s
    else none

/-- The callers after some moves, if they can be made one after another. -/
def run? (s : Callers) : List CallerMove → Option Callers
  | [] => some s
  | m :: ms => (s.step? m).bind (·.run? ms)

end Callers
end Loyalty
