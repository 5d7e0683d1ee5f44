import Loyalty.Authority.Callers
import Mathlib.Tactic.SplitIfs

/-!
# What the callers do

`Callers.Step` says of each move of the callers what it needs and what it leads to. Whatever
is proved of them is proved by its cases (`Callers.step?_step`): who stands at the gate, who
is let through, and what becomes of the deadline meanwhile.
-/

namespace Loyalty.Callers

variable {s s' : Callers} {m : CallerMove} {moves : List CallerMove}

/-- What a move of `s` leads to, and what it needs. -/
inductive Step (s : Callers) : CallerMove → Callers → Prop
  | pass (span : Span) : Step s (.pass span) { s with now := s.now + span.nanoseconds }
  | trip (pause : Span) :
    Step s (.trip pause) { s with cooldown := s.cooldown.trip s.now pause }
  /-- a caller comes when there is no pause -/
  | comeThrough (i : Nat) (away : s.phase i = .away)
      (free : s.cooldown.remaining? s.now = none) : Step s (.arrive i) (s.setPhase i .ready)
  /-- a caller comes to an empty gate -/
  | comeIn (i : Nat) (away : s.phase i = .away) (pause : s.cooldown.remaining? s.now ≠ none)
      (empty : s.gate = []) : Step s (.arrive i) ({ s with gate := [i] }.setPhase i .looking)
  /-- a caller comes to a gate with somebody inside -/
  | comeBehind (i : Nat) (away : s.phase i = .away)
      (pause : s.cooldown.remaining? s.now ≠ none) (taken : s.gate ≠ []) :
    Step s (.arrive i) ({ s with gate := s.gate ++ [i] }.setPhase i .queued)
  | sleep (i d : Nat) (looking : s.phase i = .looking)
      (deadline : s.cooldown.deadline = some d) (future : s.now < d) :
    Step s (.look i) (s.setPhase i (.sleeping d))
  | pastDeadline (i : Nat) (looking : s.phase i = .looking)
      (past : ∀ d, s.cooldown.deadline = some d → d ≤ s.now) :
    Step s (.look i) (s.setPhase i .clearing)
  | wake (i wakeAt : Nat) (sleeping : s.phase i = .sleeping wakeAt) (due : wakeAt ≤ s.now) :
    Step s (.wake i) (s.setPhase i .looking)
  | clear (i : Nat) (clearing : s.phase i = .clearing) :
    Step s (.clear i) ({ s with cooldown := s.cooldown.clear s.now }.setPhase i .ready).openGate
  | send (i : Nat) (ready : s.phase i = .ready) :
    Step s (.send i) ({ s with requests := s.now :: s.requests }.setPhase i .asking)
  | answer (i : Nat) (asking : s.phase i = .asking) :
    Step s (.answer i none) (s.setPhase i .away)
  /-- the answer asks for a pause -/
  | tripped (i : Nat) (pause : Span) (asking : s.phase i = .asking) :
    Step s (.answer i (some pause))
      ({ s with cooldown := s.cooldown.trip s.now pause }.setPhase i .away)

theorem step?_step (h : s.step? m = some s') : s.Step m s' := by
  cases m with
  | pass span => cases h; exact .pass span
  | trip pause => cases h; exact .trip pause
  | arrive i =>
    simp only [step?] at h
    split_ifs at h with away free empty <;> cases h
    · exact .comeThrough i away free
    · exact .comeIn i away free (List.isEmpty_iff.1 empty)
    · exact .comeBehind i away free fun hnil => empty (List.isEmpty_iff.2 hnil)
  | look i =>
    simp only [step?] at h
    split_ifs at h with looking
    split at h
    next d hd =>
      split_ifs at h with future <;> cases h
      · exact .sleep i d looking hd future
      · refine .pastDeadline i looking fun d' hd' => ?_
        cases hd.symm.trans hd'
        exact Nat.le_of_not_lt future
    next hnone =>
      cases h
      exact .pastDeadline i looking fun d hd => by cases hnone.symm.trans hd
  | wake i =>
    simp only [step?] at h
    split at h
    next wakeAt sleeping =>
      split_ifs at h with due
      cases h
      exact .wake i wakeAt sleeping due
    · cases h
  | clear i =>
    simp only [step?] at h
    split_ifs at h with clearing
    cases h
    exact .clear i clearing
  | send i =>
    simp only [step?] at h
    split_ifs at h with ready
    cases h
    exact .send i ready
  | answer i pause =>
    simp only [step?] at h
    split_ifs at h with asking
    cases pause <;> cases h
    · exact .answer i asking
    · exact .tripped i _ asking

@[simp] theorem cooldown_openGate (s : Callers) : s.openGate.cooldown = s.cooldown := by
  unfold openGate
  split <;> rfl

@[simp] theorem now_openGate (s : Callers) : s.openGate.now = s.now := by
  unfold openGate
  split <;> rfl

/-- Time does not go back. -/
theorem now_le_of_step? (h : s.step? m = some s') : s.now ≤ s'.now := by
  cases step?_step h with
  | pass span => exact Nat.le_add_right _ _
  | clear i => rw [now_openGate]; exact Nat.le_refl _
  | _ => exact Nat.le_refl _

theorem run?_cons (h : s.run? (m :: moves) = some s') :
    ∃ t, s.step? m = some t ∧ t.run? moves = some s' :=
  Option.bind_eq_some_iff.1 h

theorem now_le_of_run? (h : s.run? moves = some s') : s.now ≤ s'.now := by
  induction moves generalizing s with
  | nil => cases h; exact Nat.le_refl _
  | cons m moves ih =>
    obtain ⟨t, ht, hrun⟩ := run?_cons h
    exact Nat.le_trans (now_le_of_step? ht) (ih hrun)

end Loyalty.Callers
