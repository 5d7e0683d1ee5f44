import Loyalty.Proofs.Session.Tokens
import Loyalty.Settings.Basic

/-!
# How long sessions last

The settings say for how many hours a session lasts; they are checked for saying so, but
not for a bound. The seconds of it are counted in 64 bits, and so is, with a sign, the
second at which a token expires. A token is good when it is issued as long as all of this
fits (`session_usable`). Where it does not, the expiry is in the past, and the token has
expired from the beginning (`expired_at_once`).
-/

namespace Loyalty

open Loyalty.Text

namespace Settings

variable {s : Settings}

theorem faults_eq_nil_iff : s.faults = [] ↔ ∀ check ∈ s.checks, check.1 = false := by
  rw [faults, List.filterMap_eq_nil_iff]
  exact forall₂_congr fun ⟨holds, fault⟩ _ => by cases holds <;> simp

/-- Settings without faults say for how long a session lasts. -/
theorem lifetimeHours_pos (h : s.faults = []) : 0 < s.sessions.lifetimeHours := by
  have hmem : (decide (s.sessions.lifetimeHours = 0), SettingsFault.noLifetime) ∈ s.checks := by
    simp [checks]
  exact Nat.pos_of_ne_zero (of_decide_eq_false (faults_eq_nil_iff.1 h _ hmem))

theorem sessionSeconds_lt : s.sessionSeconds < twoTo 64 := Nat.mod_lt _ (by decide)

/-- As many seconds as 64 bits can hold are what the hours say. -/
theorem sessionSeconds_of_lt (h : s.sessions.lifetimeHours * 3600 < twoTo 64) :
    s.sessionSeconds = s.sessions.lifetimeHours * 3600 :=
  Nat.mod_eq_of_lt h

end Settings

/-- A token has expired when it is issued if it does not last at all, or if its expiry is
    beyond 64 bits. -/
theorem SessionKeys.expiry_le_iff {keys : SessionKeys} {now : Int}
    (hnow : 0 ≤ now ∧ now ≤ twoTo 40) (hlifetime : keys.lifetime < twoTo 64) :
    keys.expiry now ≤ now ↔ keys.lifetime = 0 ∨ int64Max < now + keys.lifetime := by
  have htwo : twoTo 40 = 1099511627776 := by decide
  rw [htwo] at hnow
  rw [twoTo_wordBits] at hlifetime
  rw [expiry, twoTo_wordBits, int64Max, Int.bmod]
  split_ifs <;> omega

/-- With settings without faults, a token is good when it is issued, as long as its expiry
    can be held in 64 bits; otherwise it has expired from the beginning, as it has where the
    seconds that it lasts come to nothing in 64 bits. -/
theorem session_usable {s : Settings} {user now : Int} (hs : s.faults = [])
    (huser : int64Min ≤ user ∧ user ≤ int64Max) (hnow : 0 ≤ now ∧ now ≤ twoTo 40) :
    let keys := SessionKeys.ofSecret s.sessions.secret s.sessionSeconds
    (now + s.sessions.lifetimeHours * 3600 ≤ int64Max →
      keys.verify (keys.issue user now) now = .ok user) ∧
    keys.verify (keys.issue user now) now =
      if s.sessionSeconds = 0 ∨ int64Max < now + s.sessionSeconds then .error .expired
      else .ok user := by
  intro keys
  have hexpired : keys.expiry now ≤ now ↔
      s.sessionSeconds = 0 ∨ int64Max < now + s.sessionSeconds :=
    SessionKeys.expiry_le_iff hnow Settings.sessionSeconds_lt
  have hverify := keys.verify_issue huser now now
  simp only [hexpired] at hverify
  refine ⟨fun hfits => ?_, hverify⟩
  have hpos := Settings.lifetimeHours_pos hs
  have hseconds : s.sessionSeconds = s.sessions.lifetimeHours * 3600 := by
    refine Settings.sessionSeconds_of_lt ?_
    rw [int64Max] at hfits
    rw [SessionKeys.twoTo_wordBits]
    omega
  rw [hverify, if_neg]
  rintro (hzero | hbeyond)
  · omega
  · rw [hseconds, Int.natCast_mul] at hbeyond
    exact absurd hfits (Int.not_le.2 hbeyond)

/-- Sessions of four days are usable. -/
theorem session_usable_days :
    let s : Settings := { Settings.standard with sessions := { secret := "k" } }
    let keys := SessionKeys.ofSecret s.sessions.secret s.sessionSeconds
    s.faults = [] ∧ s.sessionSeconds = 345600 ∧
      keys.verify (keys.issue (-5) 1700000000) 1700000000 = .ok (-5) := by
  intro s keys
  have hs : s.faults = [] := by decide
  exact ⟨hs, by decide, (session_usable hs (by decide) (by decide)).1 (by decide)⟩

/-- Sessions of so many hours are allowed that every token has expired when it is issued. -/
theorem expired_at_once :
    let s : Settings := { Settings.standard with
      sessions := { secret := "k", lifetimeHours := 2562047788015216 } }
    let keys := SessionKeys.ofSecret s.sessions.secret s.sessionSeconds
    s.faults = [] ∧ s.sessionSeconds = 9223372036854777600 ∧
      keys.verify (keys.issue 1 1700000000) 1700000000 = .error .expired := by
  intro s keys
  refine ⟨by decide, by decide, ?_⟩
  have hexpired : keys.expiry 1700000000 ≤ 1700000000 := by decide
  rw [keys.verify_issue (by decide), if_pos hexpired]

end Loyalty
