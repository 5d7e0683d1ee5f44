import Loyalty.Proofs.Authority.Moves
import Mathlib.Data.List.Nodup

/-!
# The gate

Whoever waits stands at the gate, once, and whoever is inside is the first there
(`Callers.Gated`). So nobody who has sent a request is called into the gate, and between
coming and getting an answer a caller sends one request (`Callers.asked_of_step?`).
-/

namespace Loyalty

namespace CallerPhase

/-- Whether a caller stands at the gate or is inside it. -/
def waits : CallerPhase → Bool
  | queued | looking | sleeping _ | clearing => true
  | away | ready | asking => false

/-- Whether a caller is inside the gate. -/
def isInside : CallerPhase → Bool
  | looking | sleeping _ | clearing => true
  | away | queued | ready | asking => false

/-- How many requests a caller has sent and not had answered. -/
def asked : CallerPhase → Nat
  | asking => 1
  | _ => 0

theorem asked_of_waits {p : CallerPhase} (h : p.waits) : p.asked = 0 := by
  cases p <;> first | rfl | cases h

theorem asked_le_one (p : CallerPhase) : p.asked ≤ 1 := by
  cases p <;> simp [asked]

end CallerPhase

namespace Callers

variable {s s' : Callers} {m : CallerMove} {moves : List CallerMove} {i j : Nat}
  {p q : CallerPhase}

@[simp] theorem gate_setPhase : (s.setPhase i p).gate = s.gate := rfl

@[simp] theorem phase_setPhase_self : (s.setPhase i p).phase i = p := if_pos rfl

@[simp] theorem phase_setPhase_of_ne (h : j ≠ i) : (s.setPhase i p).phase j = s.phase j := if_neg h

/-- Whoever waits stands at the gate, once, and whoever is inside is the first there. -/
structure Gated (s : Callers) : Prop where
  nodup : s.gate.Nodup
  mem_iff : ∀ i, i ∈ s.gate ↔ (s.phase i).waits
  head_iff : ∀ i, s.gate.head? = some i ↔ (s.phase i).isInside

namespace Gated

theorem start (now : Nat) (cooldown : Cooldown) : (Callers.start now cooldown).Gated :=
  ⟨List.nodup_nil, fun _ => by simp [Callers.start, CallerPhase.waits],
    fun _ => by simp [Callers.start, CallerPhase.isInside]⟩

/-- A caller that neither comes to the gate nor leaves it changes nothing there. -/
theorem setPhase (hs : s.Gated) (hi : s.phase i = q) (hwaits : p.waits = q.waits)
    (hinside : p.isInside = q.isInside) : (s.setPhase i p).Gated := by
  refine ⟨hs.nodup, fun j => ?_, fun j => ?_⟩ <;> rw [gate_setPhase] <;> by_cases hj : j = i
  · rw [hj, phase_setPhase_self, hwaits, ← hi, hs.mem_iff]
  · rw [phase_setPhase_of_ne hj, hs.mem_iff]
  · rw [hj, phase_setPhase_self, hinside, ← hi, hs.head_iff]
  · rw [phase_setPhase_of_ne hj, hs.head_iff]

/-- A caller comes to the gate when nobody is there. -/
theorem comeIn (hs : s.Gated) (hempty : s.gate = []) :
    ({ s with gate := [i] }.setPhase i .looking).Gated := by
  -- Nobody waited, so nobody else waits.
  have hnobody (j : Nat) : (s.phase j).waits = false := by
    simpa [hempty] using (hs.mem_iff j).not
  have houtside (j : Nat) : (s.phase j).isInside = false := by
    simpa [hempty] using (hs.head_iff j).not
  refine ⟨List.nodup_singleton i, fun j => ?_, fun j => ?_⟩ <;> by_cases hj : j = i
  · simp [hj, CallerPhase.waits]
  · simp [hj, hnobody]
  · simp [hj, CallerPhase.isInside]
  · simp [hj, Ne.symm hj, houtside]

/-- A caller comes to the gate behind the others. -/
theorem comeBehind (hs : s.Gated) (haway : s.phase i = .away) (htaken : s.gate ≠ []) :
    ({ s with gate := s.gate ++ [i] }.setPhase i .queued).Gated := by
  have hfresh : i ∉ s.gate := by simp [hs.mem_iff, haway, CallerPhase.waits]
  have hhead : (s.gate ++ [i]).head? = s.gate.head? := List.head?_append_of_ne_nil _ htaken
  have hbehind : s.gate.head? ≠ some i := fun h => hfresh (List.mem_of_mem_head? h)
  have hnodup : (s.gate ++ [i]).Nodup := by simpa using List.Nodup.concat hfresh hs.nodup
  refine ⟨hnodup, fun j => ?_, fun j => ?_⟩ <;> by_cases hj : j = i
  · simp [hj, CallerPhase.waits]
  · simp [hj, hs.mem_iff]
  · simp [hj, hhead, hbehind, CallerPhase.isInside]
  · simp [hj, hhead, hs.head_iff]

/-- Whoever is inside the gate has the others behind it. -/
theorem gate_of_isInside (hs : s.Gated) (hi : (s.phase i).isInside) :
    ∃ rest, s.gate = i :: rest ∧ i ∉ rest ∧ rest.Nodup := by
  obtain ⟨rest, hgate⟩ : ∃ rest, s.gate = i :: rest :=
    List.head?_eq_some_iff.1 ((hs.head_iff i).2 hi)
  exact ⟨rest, hgate, List.nodup_cons.1 (hgate ▸ hs.nodup)⟩

/-- The caller inside goes, and the next comes in. -/
theorem leave (hs : s.Gated) (hi : (s.phase i).isInside) :
    (s.setPhase i .ready).openGate.Gated := by
  obtain ⟨rest, hgate, hgone, hnodup⟩ := hs.gate_of_isInside hi
  -- Between the two, the others wait, and nobody is inside.
  have hwaits (j : Nat) : ((s.setPhase i .ready).phase j).waits ↔ j ∈ rest := by
    by_cases hj : j = i
    · simp [hj, hgone, CallerPhase.waits]
    · simp [hj, ← hs.mem_iff, hgate]
  have hnobody (j : Nat) : ((s.setPhase i .ready).phase j).isInside = false := by
    by_cases hj : j = i
    · simp [hj, CallerPhase.isInside]
    · simpa [hj, hgate, Ne.symm hj] using (hs.head_iff j).not
  have hgate' : (s.setPhase i .ready).gate = i :: rest := hgate
  generalize s.setPhase i .ready = t at hgate' hwaits hnobody
  cases rest with
  | nil =>
    simp only [openGate, hgate']
    exact ⟨List.nodup_nil, fun j => (hwaits j).symm, fun j => by simp [hnobody]⟩
  | cons next rest =>
    simp only [openGate, hgate']
    refine ⟨hnodup, fun j => ?_, fun j => ?_⟩ <;> by_cases hj : j = next
    · simp [hj, CallerPhase.waits]
    · simp [hj, hwaits]
    · simp [hj, CallerPhase.isInside]
    · simp [hj, Ne.symm hj, hnobody]

/-- The caller that goes is let through: the next to come in is another. -/
theorem phase_leave (hs : s.Gated) (hi : (s.phase i).isInside) :
    (s.setPhase i .ready).openGate.phase i = .ready := by
  obtain ⟨rest, hgate, hgone, -⟩ := hs.gate_of_isInside hi
  cases rest with
  | nil => simp [openGate, hgate]
  | cons next rest =>
    have hne : i ≠ next := fun h => hgone (h ▸ List.mem_cons_self)
    simp [openGate, hgate, hne]

/-- What is done to the cooldown changes nothing at the gate. -/
theorem of_eq (hs : s.Gated) (hgate : s'.gate = s.gate) (hphase : s'.phase = s.phase) : s'.Gated :=
  ⟨hgate ▸ hs.nodup, hgate ▸ hphase ▸ hs.mem_iff, hgate ▸ hphase ▸ hs.head_iff⟩

theorem step? (hs : s.Gated) (h : s.step? m = some s') : s'.Gated := by
  cases step?_step h with
  | pass span | trip pause => exact hs.of_eq rfl rfl
  | comeThrough i away => exact hs.setPhase away rfl rfl
  | comeIn i away pause empty => exact hs.comeIn empty
  | comeBehind i away pause taken => exact hs.comeBehind away taken
  | sleep i d looking | pastDeadline i looking => exact hs.setPhase looking rfl rfl
  | wake i wakeAt sleeping => exact hs.setPhase sleeping rfl rfl
  | clear i clearing =>
    have hcleared : { s with cooldown := s.cooldown.clear s.now }.Gated := hs.of_eq rfl rfl
    exact hcleared.leave (by simp [clearing, CallerPhase.isInside])
  | send i ready =>
    have hsent : (s.setPhase i .asking).Gated := hs.setPhase ready rfl rfl
    exact hsent.of_eq rfl rfl
  | answer i asking => exact hs.setPhase asking rfl rfl
  | tripped i pause asking =>
    have hdone : (s.setPhase i .away).Gated := hs.setPhase asking rfl rfl
    exact hdone.of_eq rfl rfl

theorem run? (hs : s.Gated) (h : s.run? moves = some s') : s'.Gated := by
  induction moves generalizing s with
  | nil => cases h; exact hs
  | cons m moves ih =>
    obtain ⟨t, ht, hrun⟩ := run?_cons h
    exact ih (hs.step? ht) hrun

end Gated

/-- Only who asks gets an answer. -/
theorem asking_of_answer {pause : Option Span} (h : s.step? (.answer i pause) = some s') :
    s.phase i = .asking := by
  cases step?_step h with
  | answer _ asking | tripped _ _ asking => exact asking

/-- When the gate opens, it is for somebody who waited. -/
theorem phase_openGate (s : Callers) (i : Nat) :
    s.openGate.phase i = s.phase i ∨ i ∈ s.gate ∧ s.openGate.phase i = .looking := by
  unfold openGate
  split
  · exact .inl rfl
  · exact .inl rfl
  next next rest hgate =>
    by_cases hi : i = next
    · simp [hi, hgate]
    · exact .inl (phase_setPhase_of_ne hi)

/-- Whoever has come stays until it has its answer, and only sending adds to what it has
    asked. -/
theorem asked_of_step? (hs : s.Gated) (hi : s.phase i ≠ .away) (hm : ∀ pause, m ≠ .answer i pause)
    (h : s.step? m = some s') : s'.phase i ≠ .away ∧
      (s'.phase i).asked = (s.phase i).asked + if m = .send i then 1 else 0 := by
  cases step?_step h with
  | pass span | trip pause => simp [hi]
  | comeThrough j away | comeIn j away | comeBehind j away =>
    have hij : i ≠ j := fun hij => hi (hij ▸ away)
    simp [hij, hi]
  | sleep j d looking | pastDeadline j looking =>
    by_cases hij : i = j
    · simp [hij, looking, CallerPhase.asked]
    · simp [hij, hi]
  | wake j wakeAt sleeping =>
    by_cases hij : i = j
    · simp [hij, sleeping, CallerPhase.asked]
    · simp [hij, hi]
  | clear j clearing =>
    obtain hopen | ⟨hmem, hopen⟩ := phase_openGate
      ({ s with cooldown := s.cooldown.clear s.now }.setPhase j .ready) i <;> rw [hopen]
    · by_cases hij : i = j
      · simp [hij, clearing, CallerPhase.asked]
      · simp [hij, hi]
    · rw [CallerPhase.asked_of_waits ((hs.mem_iff i).1 hmem)]
      exact ⟨by simp, rfl⟩
  | send j ready =>
    by_cases hij : i = j
    · simp [hij, ready, CallerPhase.asked]
    · simp [hij, hi, Ne.symm hij]
  | answer j asking | tripped j _ asking =>
    have hij : i ≠ j := by
      rintro rfl
      exact hm _ rfl
    simp [hij, hi]

end Callers
end Loyalty
