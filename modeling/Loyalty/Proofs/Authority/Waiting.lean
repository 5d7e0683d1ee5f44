import Loyalty.Proofs.Authority.Pausing

/-!
# Waiting for the end of a pause

Any number of callers set pauses, wait for the deadline and forget it when it has passed.
Whatever they do, a pause lasts as long as it was asked for: a shorter one does not bring
the deadline forward, and nobody forgets it too early. So whoever comes after a pause was
set is not let through before its end, and whoever sleeps until an earlier deadline wakes
up, looks, and goes to sleep again.

* `Callers.holds_induct`: induction along a run while a deadline holds;
* `Callers.not_arrive_of_passed`: whoever is through has not come meanwhile;
* `Callers.kept_of_step?`: whoever sleeps inside the gate is kept there;
* `never_early`: all of this for every pause that is set.
-/

namespace Loyalty

/-- The pause that a move sets. -/
def CallerMove.pause? : CallerMove → Option Span
  | trip pause => some pause
  | answer _ pause => pause
  | _ => none

/-- The caller is kept inside the gate: it sleeps, or will look whether it has to. -/
def CallerPhase.Kept (p : CallerPhase) : Prop := p = .looking ∨ ∃ wakeAt, p = .sleeping wakeAt

namespace Callers

variable {s s' t : Callers} {m : CallerMove} {moves before after : List CallerMove}
  {i j time : Nat} {pause : Span} {p : CallerPhase}

/-- A run is made of the moves before one of its moves, this move, and those after it. -/
theorem run?_append_cons (h : s.run? (before ++ m :: after) = some s') :
    ∃ u v, s.run? before = some u ∧ u.step? m = some v ∧ v.run? after = some s' := by
  induction before generalizing s with
  | nil =>
    obtain ⟨v, hv, hafter⟩ := run?_cons h
    exact ⟨s, v, rfl, hv, hafter⟩
  | cons first before ih =>
    obtain ⟨t, ht, hrun⟩ := run?_cons h
    obtain ⟨u, v, hu, hv, hafter⟩ := ih hrun
    exact ⟨u, v, Option.bind_eq_some_iff.2 ⟨t, ht, hu⟩, hv, hafter⟩

/-! ## The deadline -/

theorem holds_of_pause? (hpause : m.pause? = some pause) (h : s.step? m = some s') :
    s'.cooldown.Holds (Cooldown.pauseEnd s.now pause) := by
  cases step?_step h with
  | trip pause | tripped i pause =>
    cases hpause
    exact s.cooldown.holds_trip s.now pause
  | _ => cases hpause

/-- What every move keeps that is made while the deadline holds is kept until then. -/
theorem holds_induct {P : Callers → Prop} (hheld : s.cooldown.Holds time)
    (hrun : s.run? moves = some s') (hnow : s'.now < time) (hs : P s)
    (hstep : ∀ {u m v}, u.cooldown.Holds time → u.now < time → P u → u.step? m = some v → P v) :
    s'.cooldown.Holds time ∧ P s' := by
  induction moves generalizing s with
  | nil =>
    cases hrun
    exact ⟨hheld, hs⟩
  | cons m moves ih =>
    obtain ⟨t, ht, hrun, hlt, hheld'⟩ := holds_cons hheld hrun hnow
    exact ih hheld' hrun (hstep hheld hlt hs ht)

theorem holds_of_run? (hheld : s.cooldown.Holds time) (hrun : s.run? moves = some s')
    (hnow : s'.now < time) : s'.cooldown.Holds time :=
  (holds_induct (P := fun _ => True) hheld hrun hnow trivial fun _ _ _ _ => trivial).1

/-! ## Those who come -/

/-- Whoever comes while the deadline holds is not let through until then. -/
theorem not_arrive_of_passed (hheld : s.cooldown.Holds time) (hrun : s.run? moves = some s')
    (hnow : s'.now < time) (hj : (s'.phase j).Passed) : .arrive j ∉ moves := by
  intro hmem
  obtain ⟨before, after, rfl⟩ := List.append_of_mem hmem
  obtain ⟨u, v, hbefore, harrive, hafter⟩ := run?_append_cons hrun
  have hlt : u.now < time :=
    ((now_le_of_step? harrive).trans (now_le_of_run? hafter)).trans_lt hnow
  have hu : u.cooldown.Holds time := holds_of_run? hheld hbefore hlt
  have hv : (v.phase j).Passed := (passed_of_run? (holds_of_step? hu hlt harrive) hafter hnow hj).1
  -- It would have been through before it came, but then it was away.
  have hpassed : (u.phase j).Passed := (passed_of_step? hu hlt harrive hv).1
  cases step?_step harrive with
  | comeThrough _ away | comeIn _ away | comeBehind _ away =>
    simp [away, CallerPhase.Passed] at hpassed

/-! ## Those who sleep -/

/-- What others do does not bring a caller out of the gate. -/
theorem kept_of_setPhase (hj : (s.phase j).Kept) (hp : i = j → p.Kept) :
    ((s.setPhase i p).phase j).Kept := by
  simp only [setPhase]
  split_ifs with hij
  · exact hp hij.symm
  · exact hj

theorem kept_of_openGate (hj : (s.phase j).Kept) : (s.openGate.phase j).Kept := by
  unfold openGate
  split
  · exact hj
  · exact hj
  · exact kept_of_setPhase hj fun _ => .inl rfl

/-- While the deadline holds, whoever is inside the gate stays there. -/
theorem kept_of_step? (hheld : s.cooldown.Holds time) (hnow : s.now < time)
    (hj : (s.phase j).Kept) (h : s.step? m = some s') : (s'.phase j).Kept := by
  -- Whoever is in another phase is another caller.
  have hne {i : Nat} {p : CallerPhase} (hi : s.phase i = p) (hp : ¬ p.Kept) : i ≠ j :=
    fun hij => hp (hi ▸ hij ▸ hj)
  cases step?_step h with
  | pass span | trip pause => exact hj
  | comeThrough i away | comeIn i away | comeBehind i away =>
    exact kept_of_setPhase hj fun hij => absurd hij (hne away (by simp [CallerPhase.Kept]))
  | sleep i d => exact kept_of_setPhase hj fun _ => .inr ⟨d, rfl⟩
  | wake i => exact kept_of_setPhase hj fun _ => .inl rfl
  | pastDeadline i looking past =>
    obtain ⟨d, hd, htime⟩ := hheld
    have hpast := past d hd
    omega
  | clear i clearing =>
    refine kept_of_openGate (kept_of_setPhase hj fun hij => ?_)
    exact absurd hij (hne clearing (by simp [CallerPhase.Kept]))
  | send i ready =>
    exact kept_of_setPhase hj fun hij => absurd hij (hne ready (by simp [CallerPhase.Kept]))
  | answer i asking | tripped i _ asking =>
    exact kept_of_setPhase hj fun hij => absurd hij (hne asking (by simp [CallerPhase.Kept]))

/-- Whoever looks while the deadline holds goes to sleep until then, or until later. -/
theorem look_of_holds (hheld : s.cooldown.Holds time) (hnow : s.now < time)
    (hj : s.phase j = .looking) :
    ∃ d, time ≤ d ∧ s.step? (.look j) = some (s.setPhase j (.sleeping d)) := by
  obtain ⟨d, hd, htime⟩ := hheld
  have hfuture : d > s.now := hnow.trans_le htime
  exact ⟨d, htime, by simp only [step?, if_pos hj, hd, if_pos hfuture]⟩

end Callers

open Callers

/-- From a move that sets a pause until the pause is over, whatever is done: the deadline is
    no earlier than its end; whoever is let through found no deadline in the future before
    the move, and did not come after it; whoever sleeps inside the gate stays there, and
    whoever looks there goes to sleep until the end of the pause or later. A pause is over
    when its time has passed or, where the clock cannot show that, after a year. -/
theorem never_early {s t s' : Callers} {m : CallerMove} {pause : Span} {moves : List CallerMove}
    (hpause : m.pause? = some pause) (hset : s.step? m = some t) (hrun : t.run? moves = some s')
    (hnow : s'.now < Cooldown.pauseEnd s.now pause) :
    (∃ d, s'.cooldown.deadline = some d ∧ Cooldown.pauseEnd s.now pause ≤ d) ∧
    (∀ j, s'.phase j = .ready → (t.phase j).Passed ∧ .arrive j ∉ moves) ∧
    (∀ j, (t.phase j).Kept → (s'.phase j).Kept) ∧
    ∀ j, s'.phase j = .looking → ∃ d, Cooldown.pauseEnd s.now pause ≤ d ∧
      s'.step? (.look j) = some (s'.setPhase j (.sleeping d)) := by
  have hheld : t.cooldown.Holds (Cooldown.pauseEnd s.now pause) := holds_of_pause? hpause hset
  have hstill : s'.cooldown.Holds (Cooldown.pauseEnd s.now pause) := holds_of_run? hheld hrun hnow
  refine ⟨hstill, fun j hj => ?_, fun j hj => ?_, fun j hj => look_of_holds hstill hnow hj⟩
  · have hpassed : (s'.phase j).Passed := .inr hj
    exact ⟨(passed_of_run? hheld hrun hnow hpassed).1,
      not_arrive_of_passed hheld hrun hnow hpassed⟩
  · exact (holds_induct (P := fun u => (u.phase j).Kept) hheld hrun hnow hj
      fun hheld hlt hi hstep => kept_of_step? hheld hlt hi hstep).2

/-- A caller sleeps until the end of a pause of two seconds. After one second a pause of
    four is set, so that it goes to sleep again when it wakes up. -/
theorem never_early_putOff :
    ∃ s t s' : Callers, (Callers.start 0 .idle).run?
        [.trip (.seconds 2), .arrive 0, .look 0, .pass (.seconds 1)] = some s ∧
      s.phase 0 = .sleeping (Span.seconds 2).nanoseconds ∧
      s.step? (.trip (.seconds 4)) = some t ∧
      t.run? [.pass (.seconds 1), .wake 0] = some s' ∧
      s'.now = (Span.seconds 2).nanoseconds ∧
      ∃ d, (Span.seconds 5).nanoseconds ≤ d ∧
        s'.step? (.look 0) = some (s'.setPhase 0 (.sleeping d)) := by
  obtain ⟨s, hs⟩ : ∃ s : Callers, (Callers.start 0 .idle).run?
      [.trip (.seconds 2), .arrive 0, .look 0, .pass (.seconds 1)] = some s := ⟨_, rfl⟩
  obtain ⟨t, hset⟩ : ∃ t : Callers, s.step? (.trip (.seconds 4)) = some t := ⟨_, rfl⟩
  obtain ⟨s', hrun, hasleep, hnow, hlooking, hend⟩ : ∃ s' : Callers,
      t.run? [.pass (.seconds 1), .wake 0] = some s' ∧
      s.phase 0 = .sleeping (Span.seconds 2).nanoseconds ∧
      s'.now = (Span.seconds 2).nanoseconds ∧ s'.phase 0 = .looking ∧
      Cooldown.pauseEnd s.now (.seconds 4) = (Span.seconds 5).nanoseconds := by
    cases hs
    cases hset
    exact ⟨_, rfl, rfl, rfl, rfl, by decide⟩
  have hearly := never_early rfl hset hrun (by rw [hnow, hend]; decide)
  rw [hend] at hearly
  exact ⟨s, t, s', hs, hasleep, hset, hrun, hnow, hearly.2.2.2 0 hlooking⟩

end Loyalty
