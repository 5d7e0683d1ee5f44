import Loyalty.Json.Document
import Mathlib.Tactic.SplitIfs

/-!
# What records are read as

A record is read member by member, in whatever order they stand, and each member
changes the draft of the record. So what all members keep true of a draft is true
of the record that is read (`readRecord_keeps`).

A resolution gets its status from a name in the text. The statuses that names
stand for have these names again (`ResolutionStatus.name_ofText`), so that the name
of the status that is read is the one in the text (`ofText_name_of_readResolution`).
-/

namespace Loyalty

/-! ## Steps that can fail -/

variable {ε α β : Type}

theorem bind_eq_ok {x : Except ε α} {f : α → Except ε β} {b : β} :
    x >>= f = .ok b ↔ ∃ a, x = .ok a ∧ f a = .ok b := by
  cases x with
  | error e => simp [bind, Except.bind]
  | ok a => simp [bind, Except.bind]

theorem bind_eq_error {x : Except ε α} {f : α → Except ε β} {e : ε} :
    x >>= f = .error e ↔ x = .error e ∨ ∃ a, x = .ok a ∧ f a = .error e := by
  cases x with
  | error e => simp [bind, Except.bind]
  | ok a => simp [bind, Except.bind]

namespace Json

/-! ## Records -/

variable {σ : Type} {P : σ → Prop} {members : List (Member σ)} {first : Bool} {draft d : σ}
  {bs rest : List UInt8}

/-- Neither reading the member nor leaving it out makes `P` false of a draft. -/
structure Member.Keeps (m : Member σ) (P : σ → Prop) : Prop where
  read : ∀ {bs f rest}, m.read bs = .ok (f, rest) → ∀ draft, P draft → P (f draft)
  leftOut : ∀ f ∈ m.leftOut, ∀ draft, P draft → P (f draft)

theorem Member.required_keeps {name : String} {get : σ → Option α} {read : Reader α}
    {set : α → σ → σ}
    (h : ∀ {bs a rest}, read bs = .ok (a, rest) → ∀ draft, P draft → P (set a draft)) :
    (Member.required name get read set).Keeps P := by
  refine ⟨fun {bs f rest} hread draft hdraft => ?_, fun f hf => nomatch hf⟩
  obtain ⟨⟨a, behind⟩, ha, hset⟩ := bind_eq_ok.1 hread
  cases hset
  exact h ha draft hdraft

theorem readElements_keeps (hkeeps : ∀ m ∈ members, m.Keeps P) (hdraft : P draft)
    (h : readElements members first draft bs = .ok (d, rest)) : P d := by
  induction members generalizing first draft bs with
  | nil =>
    rw [readElements] at h
    cases h
    exact hdraft
  | cons m more ih =>
    have hm := hkeeps m List.mem_cons_self
    have hmore : ∀ m ∈ more, m.Keeps P := fun m' hm' => hkeeps m' (List.mem_cons_of_mem _ hm')
    unfold readElements at h
    extract_lets ended element at h
    have hended (h : ended = .ok (d, rest)) : P d := by
      dsimp only [ended] at h
      split at h
      · rename_i f hleft _
        exact ih hmore (hm.leftOut f hleft draft hdraft) h
      · cases h
    have helement {bs} (h : element bs = .ok (d, rest)) : P d := by
      obtain ⟨⟨f, behind⟩, hf, h⟩ := bind_eq_ok.1 h
      exact ih hmore (hm.read hf draft hdraft) h
    split at h
    · cases h
    · split_ifs at h
      · exact hended h
      · exact helement h
      · split at h
        · cases h
        · split_ifs at h
          exact helement h

theorem fillIn_keeps (hkeeps : ∀ m ∈ members, m.Keeps P) (hdraft : P draft)
    (h : fillIn members draft = .ok d) : P d := by
  induction members generalizing draft with
  | nil =>
    rw [fillIn] at h
    cases h
    exact hdraft
  | cons m more ih =>
    have hmore : ∀ m ∈ more, m.Keeps P := fun m' hm' => hkeeps m' (List.mem_cons_of_mem _ hm')
    rw [fillIn] at h
    split_ifs at h
    · exact ih hmore hdraft h
    · split at h
      · rename_i f hleft
        exact ih hmore ((hkeeps m List.mem_cons_self).leftOut f hleft draft hdraft) h
      · cases h

theorem readEntries_keeps (hkeeps : ∀ m ∈ members, m.Keeps P) (fuel : Nat) (hdraft : P draft)
    (h : readEntries members fuel first draft bs = .ok (d, rest)) : P d := by
  induction fuel generalizing first draft bs with
  | zero => cases h
  | succ fuel ih =>
    unfold readEntries at h
    extract_lets entry at h
    have hentry {bs} (h : entry bs = .ok (d, rest)) : P d := by
      obtain ⟨⟨key, behind⟩, -, h⟩ := bind_eq_ok.1 h
      dsimp only at h
      split_ifs at h
      split at h
      · cases h
      · split_ifs at h
        split at h
        · rename_i m hm
          obtain ⟨⟨f, behind⟩, hf, h⟩ := bind_eq_ok.1 h
          exact ih ((hkeeps m (List.mem_of_find?_eq_some hm)).read hf draft hdraft) h
        · obtain ⟨behind, -, h⟩ := bind_eq_ok.1 h
          exact ih hdraft h
    split at h
    · cases h
    · split_ifs at h
      · obtain ⟨d', hd', h⟩ := bind_eq_ok.1 h
        cases h
        exact fillIn_keeps hkeeps hdraft hd'
      · exact hentry h
      · split at h
        · cases h
        · split_ifs at h
          exact hentry h

/-- What all members keep true of a draft is true of the record that is read. -/
theorem readRecord_keeps (hkeeps : ∀ m ∈ members, m.Keeps P) {empty : σ} (hempty : P empty)
    (h : readRecord members empty bs = .ok (d, rest)) : P d := by
  rw [readRecord] at h
  split at h
  · cases h
  · split_ifs at h
    · obtain ⟨⟨d', behind⟩, hd', h⟩ := bind_eq_ok.1 h
      dsimp only at h
      split at h
      · cases h
      · split_ifs at h
        cases h
        exact readElements_keeps hkeeps hempty hd'
    · exact readEntries_keeps hkeeps _ hempty h

end Json

/-! ## Resolutions -/

/-- The name that a status has in a text. -/
def ResolutionStatus.name : ResolutionStatus → String
  | registered => "REGISTERED"
  | processing => "PROCESSING"
  | processed => "PROCESSED"
  | invalid => "INVALID"
  | unknown name => name

@[simp]
theorem ResolutionStatus.name_ofText (text : String) : (ofText text).name = text := by
  rw [ofText]
  split_ifs with h h h h <;> simp [name, h]

/-- The status of a resolution that is read is the one of its name in the text. -/
theorem Json.ofText_name_of_readResolution {bs rest : List UInt8} {r : Resolution}
    (h : readResolution bs = .ok (r, rest)) : .ofText r.status.name = r.status := by
  let P (draft : ResolutionDraft) : Prop := ∀ s ∈ draft.status, .ofText s.name = s
  have hkeeps : ∀ m ∈ resolutionMembers, m.Keeps P := by
    rw [resolutionMembers, List.forall_mem_cons, List.forall_mem_cons, List.forall_mem_singleton]
    refine ⟨Member.required_keeps fun _ _ hdraft => hdraft, ?_, ?_⟩
    · refine Member.required_keeps fun {bs s rest} hs draft _ => ?_
      obtain ⟨⟨text, behind⟩, -, hs⟩ := bind_eq_ok.1 hs
      cases hs
      simp [P]
    · -- The accrual may be left out, and says nothing of the status.
      have hread : (Member.required "accrual" ResolutionDraft.accrual (readOption readAmount)
          fun a d => { d with accrual := some a }).Keeps P :=
        Member.required_keeps fun _ _ hdraft => hdraft
      refine ⟨hread.read, fun f hf draft hdraft => ?_⟩
      cases hf
      exact hdraft
  have hempty : P ⟨none, none, none⟩ := fun s hs => nomatch hs
  obtain ⟨⟨⟨order, status, accrual⟩, behind⟩, hdraft, h⟩ := bind_eq_ok.1 h
  have hP : P ⟨order, status, accrual⟩ := readRecord_keeps hkeeps hempty hdraft
  split at h
  · rename_i heq
    cases h
    cases heq
    exact hP _ rfl
  · cases h

end Loyalty
