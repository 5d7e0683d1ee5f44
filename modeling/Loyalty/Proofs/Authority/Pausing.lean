import Loyalty.Proofs.Authority.Finality
import Loyalty.Proofs.Authority.Gate

/-!
# Keeping a pause

A response of 429 sets a deadline for all callers. Whoever looks at the deadline before it
has passed waits. But a caller that looked when there was none, or when it had passed, does
not look again: it is going to send its request, and what others are answered in between
does not call it back.

* `Cooldown.Holds`: there is a deadline, no earlier than some time. Until that time, this
  is kept by everything that is done to a cooldown (`Callers.holds_of_step?`);
* `Callers.passed_of_step?`, `Callers.count_send_le`: meanwhile nobody newly passes the
  deadline, and whoever has passed it sends one request at most;
* `Callers.sends_of_passed`: and can send it at once;
* `pause_kept`: so a pause is kept, after every response of 429 until it is over or, where
  the clock cannot show the end of it, for a year, by all callers but those that had passed
  the deadline, which break it once each;
* `sent_in_pause`: there are such callers.
-/

namespace Loyalty

open Loyalty.Text

namespace Cooldown

variable {c : Cooldown} {now time : Nat} {pause : Span}

/-- There is a deadline, no earlier than that time. -/
def Holds (c : Cooldown) (time : Nat) : Prop := ∃ d, c.deadline = some d ∧ time ≤ d

theorem holds_trip (c : Cooldown) (now : Nat) (pause : Span) :
    (c.trip now pause).Holds (pauseEnd now pause) := by
  unfold trip
  split
  next d hd =>
    split_ifs with hlater
    · exact ⟨d, hd, hlater⟩
    · exact ⟨_, rfl, le_rfl⟩
  · exact ⟨_, rfl, le_rfl⟩

theorem lt_pauseEnd (now : Nat) (hpause : 0 < pause.nanoseconds) : now < pauseEnd now pause := by
  have hlongest : 0 < longestPause.nanoseconds := by decide
  unfold pauseEnd
  split_ifs <;> omega

/-- Another pause does not bring the deadline forward. -/
theorem Holds.trip (h : c.Holds time) (now : Nat) (pause : Span) :
    (c.trip now pause).Holds time := by
  obtain ⟨d, hd, htime⟩ := h
  simp only [Cooldown.trip, hd]
  split_ifs with hlater
  · exact ⟨d, hd, htime⟩
  · exact ⟨_, rfl, htime.trans (Nat.le_of_not_le hlater)⟩

/-- A deadline that has not passed is not forgotten. -/
theorem Holds.clear (h : c.Holds time) (hnow : now < time) : (c.clear now).Holds time := by
  obtain ⟨d, hd, htime⟩ := h
  refine ⟨d, ?_, htime⟩
  simp only [Cooldown.clear, hd]
  rw [if_neg (by omega), hd]

theorem Holds.remaining?_ne_none (h : c.Holds time) (hnow : now < time) :
    c.remaining? now ≠ none := by
  obtain ⟨d, hd, htime⟩ := h
  simp only [remaining?, hd]
  rw [if_pos (by omega)]
  exact Option.some_ne_none _

end Cooldown

/-- The caller has looked at the deadline for the last time, and found none in the future: it
    is about to leave the gate, or was let through. -/
def CallerPhase.Passed (p : CallerPhase) : Prop := p = .clearing ∨ p = .ready

instance : DecidablePred CallerPhase.Passed := fun _ => inferInstanceAs (Decidable (_ ∨ _))

namespace Callers

variable {s s' t : Callers} {m : CallerMove} {moves : List CallerMove} {i j time : Nat}
  {p : CallerPhase}

/-! ## While a deadline holds -/

/-- A deadline holds until it has passed. -/
theorem holds_of_step? (hheld : s.cooldown.Holds time) (hnow : s.now < time)
    (h : s.step? m = some s') : s'.cooldown.Holds time := by
  cases step?_step h with
  | trip pause => exact hheld.trip s.now pause
  | clear i => rw [cooldown_openGate]; exact hheld.clear hnow
  | tripped i pause => exact hheld.trip s.now pause
  | _ => exact hheld

/-- The first of the moves of a run that ends before that time is made before it, and the
    deadline holds after it. -/
theorem holds_cons (hheld : s.cooldown.Holds time) (hrun : s.run? (m :: moves) = some s')
    (hnow : s'.now < time) :
    ∃ t, s.step? m = some t ∧ t.run? moves = some s' ∧ s.now < time ∧ t.cooldown.Holds time := by
  obtain ⟨t, ht, hrun⟩ := run?_cons hrun
  have hlt : s.now < time := ((now_le_of_step? ht).trans (now_le_of_run? hrun)).trans_lt hnow
  exact ⟨t, ht, hrun, hlt, holds_of_step? hheld hlt ht⟩

theorem passed_of_setPhase (hp : ¬ p.Passed) (h : ((s.setPhase i p).phase j).Passed) :
    j ≠ i ∧ (s.phase j).Passed := by
  by_cases hj : j = i
  · simp only [setPhase, if_pos hj] at h
    exact absurd h hp
  · simp only [setPhase, if_neg hj] at h
    exact ⟨hj, h⟩

/-- Whoever comes into the gate has yet to look. -/
theorem passed_of_openGate (h : (s.openGate.phase j).Passed) : (s.phase j).Passed := by
  unfold openGate at h
  split at h
  · exact h
  · exact h
  · exact (passed_of_setPhase (by simp [CallerPhase.Passed]) h).2

/-- While a deadline holds, nobody newly passes it, and whoever sends a request has to come
    again. -/
theorem passed_of_step? (hheld : s.cooldown.Holds time) (hnow : s.now < time)
    (h : s.step? m = some s') (hj : (s'.phase j).Passed) :
    (s.phase j).Passed ∧ m ≠ .send j := by
  cases step?_step h with
  | pass span | trip pause => exact ⟨hj, nofun⟩
  | comeThrough i away free => exact absurd free (hheld.remaining?_ne_none hnow)
  | comeIn i | comeBehind i | sleep i | wake i | answer i | tripped i =>
    exact ⟨(passed_of_setPhase (by simp [CallerPhase.Passed]) hj).2, nofun⟩
  | pastDeadline i looking past =>
    obtain ⟨d, hd, htime⟩ := hheld
    have hpast := past d hd
    omega
  | clear i clearing =>
    have hready := passed_of_openGate hj
    by_cases hji : j = i
    · exact ⟨.inl (hji ▸ clearing), nofun⟩
    · simp only [setPhase, if_neg hji] at hready
      exact ⟨hready, nofun⟩
  | send i ready =>
    obtain ⟨hne, hpassed⟩ := passed_of_setPhase (by simp [CallerPhase.Passed]) hj
    exact ⟨hpassed, fun hsend => hne (by cases hsend; rfl)⟩

theorem passed_of_run? (hheld : s.cooldown.Holds time) (hrun : s.run? moves = some s')
    (hnow : s'.now < time) (hj : (s'.phase j).Passed) :
    (s.phase j).Passed ∧ .send j ∉ moves := by
  -- By induction on the moves: each is made before that time, so the deadline holds.
  induction moves generalizing s with
  | nil =>
    cases hrun
    exact ⟨hj, List.not_mem_nil⟩
  | cons m moves ih =>
    obtain ⟨t, ht, hrun, hlt, hheld'⟩ := holds_cons hheld hrun hnow
    obtain ⟨hpassed, hmoves⟩ := ih hheld' hrun
    obtain ⟨hbefore, hm⟩ := passed_of_step? hheld hlt ht hpassed
    exact ⟨hbefore, fun hmem => (List.mem_cons.1 hmem).elim (fun h => hm h.symm) hmoves⟩

/-- While a deadline holds, whoever had passed it sends one request at most, and nobody else
    sends any. -/
theorem count_send_le (hheld : s.cooldown.Holds time) (hrun : s.run? moves = some s')
    (hnow : s'.now < time) (j : Nat) :
    moves.count (.send j) ≤ if (s.phase j).Passed then 1 else 0 := by
  induction moves generalizing s with
  | nil => exact Nat.zero_le _
  | cons m moves ih =>
    obtain ⟨t, ht, hrun, hlt, hheld'⟩ := holds_cons hheld hrun hnow
    have hlater := ih hheld' hrun
    rw [List.count_cons]
    by_cases hpassed : (t.phase j).Passed
    · obtain ⟨hbefore, hm⟩ := passed_of_step? hheld hlt ht hpassed
      rw [if_pos hpassed] at hlater
      simpa [hbefore, hm] using hlater
    · rw [if_neg hpassed, Nat.le_zero] at hlater
      rw [hlater, Nat.zero_add]
      by_cases hm : m = .send j
      · subst hm
        cases step?_step ht with
        | send _ ready => simp [ready, CallerPhase.Passed]
      · simp [hm]

/-- Whoever has passed the deadline can send its request at once. -/
theorem sends_of_passed (hs : s.Gated) (hj : (s.phase j).Passed) :
    ∃ moves s', s.run? moves = some s' ∧ s'.now = s.now ∧ moves.count (.send j) = 1 := by
  have hsend {u : Callers} (hready : u.phase j = .ready) :
      ∃ v, u.step? (.send j) = some v ∧ v.now = u.now := ⟨_, if_pos hready, rfl⟩
  rcases hj with hclearing | hready
  · have hclear : s.step? (.clear j) = some _ := if_pos hclearing
    have hcleared : { s with cooldown := s.cooldown.clear s.now }.Gated := hs.of_eq rfl rfl
    obtain ⟨v, hv, hnow⟩ := hsend (hcleared.phase_leave (by simp [hclearing, CallerPhase.isInside]))
    refine ⟨[.clear j, .send j], v, ?_, hnow.trans (now_openGate _), by simp⟩
    rw [run?, hclear, Option.bind_some, run?, hv]
    rfl
  · obtain ⟨v, hv, hnow⟩ := hsend hready
    exact ⟨[.send j], v, by rw [run?, hv]; rfl, hnow, by simp⟩

end Callers

open Callers

/-- From a response of 429 until the end of the pause that it asks for, a caller can send one
    request and no more, if it had passed the deadline when the response came, and none
    otherwise. The pause ends when the response says, or with the longest pause or the
    default one as `AuthoritySettings.pause` has it; if the clock cannot show that time, it
    ends after a year. -/
theorem pause_kept (a : AuthoritySettings) {cooldown : Cooldown} {begun i : Nat} {d : Delivery}
    {s t : Callers} {before : List CallerMove}
    (hbefore : (Callers.start begun cooldown).run? before = some s) (h429 : d.status? = some 429)
    (hanswer : s.step? (.answer i (a.interpret d).2) = some t)
    (hpause : 0 < (a.pause d.headers).nanoseconds) (j : Nat) :
    let pauseEnd := Cooldown.pauseEnd s.now (a.pause d.headers)
    let most := if (s.phase j).Passed then 1 else 0
    (∀ moves s', t.run? moves = some s' → s'.now < pauseEnd → moves.count (.send j) ≤ most) ∧
      ∃ moves s', t.run? moves = some s' ∧ s'.now < pauseEnd ∧ moves.count (.send j) = most := by
  intro pauseEnd most
  have hgated : s.Gated := (Gated.start begun cooldown).run? hbefore
  have ht : t.Gated := hgated.step? hanswer
  rw [show (a.interpret d).2 = some (a.pause d.headers) by rw [a.interpret_snd, if_pos h429]]
    at hanswer
  obtain ⟨hnow, hheld, hphase⟩ : t.now = s.now ∧ t.cooldown.Holds pauseEnd ∧
      ((t.phase j).Passed ↔ (s.phase j).Passed) := by
    cases step?_step hanswer with
    | tripped i pause asking =>
      refine ⟨rfl, s.cooldown.holds_trip s.now _, ?_⟩
      by_cases hji : j = i
      · simp [hji, asking, CallerPhase.Passed]
      · simp [hji]
  have hopen : t.now < pauseEnd := hnow ▸ Cooldown.lt_pauseEnd s.now hpause
  refine ⟨fun moves s' hrun hlt => ?_, ?_⟩
  · simpa only [hphase] using count_send_le hheld hrun hlt j
  · by_cases hpassed : (s.phase j).Passed
    · obtain ⟨moves, s', hrun, hnow', hcount⟩ := sends_of_passed ht (hphase.2 hpassed)
      exact ⟨moves, s', hrun, hnow' ▸ hopen, hcount.trans (if_pos hpassed).symm⟩
    · exact ⟨[], t, rfl, hopen, (if_neg hpassed).symm⟩

/-- The second of two callers had passed the deadline when the first is told to wait. It can
    send one request in the pause, and does, a second later. -/
theorem pause_kept_secondSends :
    let a : AuthoritySettings := ⟨"http://authority", .seconds 5, .seconds 60, .seconds 600⟩
    let d : Delivery := .response 429 [("retry-after", bytes "5")] none
    ∃ s t : Callers, (Callers.start 0 .idle).run? [.arrive 0, .arrive 1, .send 0] = some s ∧
      s.step? (.answer 0 (a.interpret d).2) = some t ∧ (s.phase 1).Passed ∧
      (∃ s', t.run? [.pass (.seconds 1), .send 1] = some s' ∧
        s'.now < Cooldown.pauseEnd s.now (a.pause d.headers)) ∧
      ∀ moves s', t.run? moves = some s' →
        s'.now < Cooldown.pauseEnd s.now (a.pause d.headers) → moves.count (.send 1) ≤ 1 := by
  intro a d
  have hasked : (a.interpret d).2 = some (.seconds 5) := by decide +kernel
  have hfive : a.pause d.headers = .seconds 5 := by decide +kernel
  obtain ⟨s, t, s', hbefore, hanswer, hready, hrun, hs, hs'⟩ : ∃ s t s' : Callers,
      (Callers.start 0 .idle).run? [.arrive 0, .arrive 1, .send 0] = some s ∧
        s.step? (.answer 0 (some (.seconds 5))) = some t ∧ s.phase 1 = .ready ∧
        t.run? [.pass (.seconds 1), .send 1] = some s' ∧ s.now = 0 ∧
        s'.now = (Span.seconds 1).nanoseconds := ⟨_, _, _, rfl, rfl, rfl, rfl, rfl, rfl⟩
  rw [← hasked] at hanswer
  have hpassed : (s.phase 1).Passed := .inr hready
  have hkept := (pause_kept a hbefore rfl hanswer (by rw [hfive]; decide) 1).1
  simp only [if_pos hpassed] at hkept
  exact ⟨s, t, hbefore, hanswer, hpassed, ⟨s', hrun, by rw [hs, hs', hfive]; decide⟩, hkept⟩

/-- A request is sent one second after a response that asks for five, by a caller that was
    let through before. And when a response asks for a pause whose end the clock cannot
    show, a caller that comes a year later is let through. -/
theorem sent_in_pause :
    let a : AuthoritySettings :=
      ⟨"http://authority", .seconds 5, .seconds 60, .seconds 18446744073709551615⟩
    let tooMany (seconds : String) : Delivery := .response 429 [("retry-after", bytes seconds)] none
    let requests (moves : List CallerMove) : Option (List Nat) :=
      ((Callers.start 0 .idle).run? moves).map (·.requests)
    (a.pause (tooMany "5").headers = .seconds 5 ∧
      requests [.arrive 0, .arrive 1, .send 0, .answer 0 (a.interpret (tooMany "5")).2,
        .pass (.seconds 1), .send 1] = some [(Span.seconds 1).nanoseconds, 0]) ∧
    a.pause (tooMany "18446744073709551615").headers = .seconds 18446744073709551615 ∧
      requests [.arrive 0, .send 0, .answer 0 (a.interpret (tooMany "18446744073709551615")).2,
        .pass Cooldown.longestPause, .arrive 1, .look 1, .clear 1, .send 1] =
          some [Cooldown.longestPause.nanoseconds, 0] := by
  decide +kernel

end Loyalty
