import Loyalty.Authority.Callers

/-!
# Waiting for the authority, step by step

`Race.run` lets callers come at given times while pauses are set at given
times, and says when each caller was let through. Whatever can happen at once
happens before time passes, and time passes to the next thing that can. It ends
when all callers were let through and all pauses are set.
-/

namespace Loyalty

/-- Callers that are still to come, and pauses that are still to be set. -/
structure Race where
  callers : Callers
  /-- the times at which the callers come -/
  arrivals : List Nat
  pauses : List (Nat × Span)
  /-- when the callers were let through -/
  passed : List (Option Nat)

namespace Race

/-- What the caller inside the gate can do now. -/
def gateMove? (s : Callers) : Option CallerMove :=
  match s.gate with
  | [] => none
  | i :: _ =>
    match s.phase i with
    | .looking => some (.look i)
    | .clearing => some (.clear i)
    | .sleeping wakeAt => if wakeAt ≤ s.now then some (.wake i) else none
    | _ => none

/-- The first caller that comes now and has not yet come. -/
def arrival? (r : Race) : Option Nat :=
  (List.range r.arrivals.length).find? fun i =>
    r.callers.phase i = .away && (r.arrivals.getD i 0) ≤ r.callers.now

/-- The times at which something can happen next. -/
def nextTimes (r : Race) : List Nat :=
  let coming := (List.range r.arrivals.length).filterMap fun i =>
    if r.callers.phase i = .away then r.arrivals[i]? else none
  let waking := r.callers.gate.filterMap fun i =>
    match r.callers.phase i with
    | .sleeping wakeAt => some wakeAt
    | _ => none
  coming ++ waking ++ r.pauses.map (·.1)

/-- The race after a move, with the callers that it lets through. -/
def move (r : Race) (m : CallerMove) : Race :=
  match r.callers.step? m with
  | none => r
  | some callers =>
    let passed := (List.range r.passed.length).map fun i =>
      match r.passed.getD i none with
      | some t => some t
      | none => if callers.phase i = .ready then some callers.now else none
    { r with callers, passed }

/-- Goes on until all callers were let through and all pauses are set. -/
def runFrom : Nat → Race → Race
  | 0, r => r
  | fuel + 1, r =>
    if r.passed.all Option.isSome && r.pauses.isEmpty then r
    else
      match gateMove? r.callers with
      | some m => runFrom fuel (r.move m)
      | none =>
        match r.pauses.find? (·.1 ≤ r.callers.now) with
        | some (time, pause) =>
          runFrom fuel { r.move (.trip pause) with pauses := r.pauses.erase (time, pause) }
        | none =>
          match r.arrival? with
          | some i => runFrom fuel (r.move (.arrive i))
          | none =>
            match r.nextTimes.min? with
            | some time => runFrom fuel (r.move (.pass ⟨time - r.callers.now⟩))
            | none => r

/-- Lets callers come at these times while these pauses are set. -/
def run (now : Nat) (cooldown : Cooldown) (arrivals : List Nat) (pauses : List (Nat × Span)) :
    Race :=
  runFrom (8 * (arrivals.length + 1) * (pauses.length + 2))
    { callers := .start now cooldown, arrivals, pauses, passed := arrivals.map fun _ => none }

end Race
end Loyalty
