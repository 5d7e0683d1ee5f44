import Loyalty.Proofs.Ledger.Settling
import Loyalty.Proofs.Ledger.Spending

/-!
# When points are rounded away

A credit is checked for not being negative, and for nothing else, so that an amount of any scale
may come to a balance of any size. What 96 bits cannot hold of the sum is rounded away, and the
credit is done all the same.

The balances in question come of credits and debits that pass their checks (`Balance.Reached`).
They are never negative, and so a sum on them is exact if and only if some amount has its value,
and is off by half a unit of the last place at most where none has (`exact_iff_representable`). It
takes no large amounts for that: ten points added to a third of a point lose a place
(`place_lost`).
-/

namespace Loyalty.Balance

variable {b b' : Balance} {amount : Amount}

/-- The balances that come of credits and debits that pass their checks. A debit may be refused or
    overflow: what it leaves is reached too. -/
inductive Reached : Balance → Prop
  | zero : Reached zero
  | credit {b b' : Balance} {amount : Amount} (reached : Reached b)
      (check : amount.checkCredit = .ok ()) (credit : b.credit amount = .ok b') : Reached b'
  | debit {b : Balance} {amount : Amount} (reached : Reached b)
      (check : amount.checkSpend = .ok ()) : Reached (b.debit amount).2

/-- Whatever comes of a debit, nothing becomes negative by it. -/
theorem nonneg_debit (hcurrent : 0 ≤ b.current.value) (hwithdrawn : 0 ≤ b.withdrawn.value)
    (hamount : 0 ≤ amount.value) :
    0 ≤ (b.debit amount).2.current.value ∧ 0 ≤ (b.debit amount).2.withdrawn.value := by
  have hleft {current : Amount} (hle : amount ≤ b.current)
      (hsub : b.current.sub? amount = some current) : 0 ≤ current.value :=
    Amount.nonneg_sub? hsub hle
  rcases b.debit_cases hamount with
    ⟨-, h⟩ | ⟨hle, ⟨-, current, hsub, h⟩ | ⟨b', hsub, hadd, h⟩⟩ <;> rw [h]
  · exact ⟨hcurrent, hwithdrawn⟩
  · exact ⟨hleft hle hsub, hwithdrawn⟩
  · exact ⟨hleft hle hsub, Amount.nonneg_add? hadd (Int.add_nonneg hwithdrawn hamount)⟩

theorem Reached.nonneg (h : b.Reached) : 0 ≤ b.current.value ∧ 0 ≤ b.withdrawn.value := by
  induction h with
  | zero => exact ⟨sound_zero.current_nonneg, sound_zero.withdrawn_nonneg⟩
  | credit _ _ credit ih =>
    exact ⟨current_nonneg_of_credit ih.1 credit, withdrawn_of_credit credit ▸ ih.2⟩
  | debit _ check ih => exact nonneg_debit ih.1 ih.2 (Amount.checkSpend_spec check).1.le

/-- A credit that is done adds the amount, as far as 96 bits can hold the sum. -/
theorem credit_rounding (hcurrent : 0 ≤ b.current.value) (hamount : 0 ≤ amount.value)
    (h : b.credit amount = .ok b') :
    b'.current.IsRounding (b.current.value + amount.value) ∧ b'.withdrawn = b.withdrawn := by
  obtain ⟨current, hadd, rfl⟩ := credit_eq_ok h
  exact ⟨Amount.isRounding_add? hadd (Int.add_nonneg hcurrent hamount), rfl⟩

/-- A debit that is done moves the amount, as far as 96 bits can hold the difference and the
    sum. -/
theorem debit_rounding (hwithdrawn : 0 ≤ b.withdrawn.value) (hamount : 0 ≤ amount.value)
    (h : b.debit amount = (.ok (), b')) :
    b'.current.IsRounding (b.current.value - amount.value) ∧
      b'.withdrawn.IsRounding (b.withdrawn.value + amount.value) := by
  obtain ⟨hle, hsub, hadd⟩ := debit_eq_ok h
  exact ⟨Amount.isRounding_sub? hsub hle,
    Amount.isRounding_add? hadd (Int.add_nonneg hwithdrawn hamount)⟩

/-- On every balance that comes of checked credits and debits, a further credit overflows or is
    done, and a further debit is refused, overflows or is done. What is done is exact if and only if
    some amount has the value that is due, and is off by half a unit of the last place at most. -/
theorem exact_iff_representable (hb : b.Reached) (amount : Amount) :
    (amount.checkCredit = .ok () →
      (Amount.brim ≤ b.current.value + amount.value ∧ b.credit amount = .error .overflow) ∨
      ∃ b', b.credit amount = .ok b' ∧
        b'.current.IsRounding (b.current.value + amount.value) ∧ b'.withdrawn = b.withdrawn) ∧
    (amount.checkSpend = .ok () →
      (b.current < amount ∧ b.debit amount = (fails (.insufficientBalance amount b.current), b)) ∨
      (amount ≤ b.current ∧ Amount.brim ≤ b.withdrawn.value + amount.value ∧
        (b.debit amount).1 = .error .overflow) ∨
      ∃ b', amount ≤ b.current ∧ b.debit amount = (.ok (), b') ∧
        b'.current.IsRounding (b.current.value - amount.value) ∧
        b'.withdrawn.IsRounding (b.withdrawn.value + amount.value)) := by
  obtain ⟨hcurrent, hwithdrawn⟩ := hb.nonneg
  refine ⟨fun hcheck => ?_, fun hcheck => ?_⟩
  · have hamount : 0 ≤ amount.value := Amount.checkCredit_eq_ok.1 hcheck
    rcases credit_of_nonneg hcurrent hamount with hover | ⟨-, current, -, hcredit⟩
    · exact .inl hover
    · exact .inr ⟨_, hcredit, credit_rounding hcurrent hamount hcredit⟩
  · have hamount : 0 ≤ amount.value := (Amount.checkSpend_spec hcheck).1.le
    rcases b.debit_cases hamount with
      hmore | ⟨hle, ⟨hnone, current, -, h⟩ | ⟨b', -, -, hdebit⟩⟩
    · exact .inl hmore
    · refine .inr (.inl ⟨hle, ?_, by rw [h]⟩)
      exact (Amount.add?_eq_none_iff (Int.add_nonneg hwithdrawn hamount)).1 hnone
    · exact .inr (.inr ⟨b', hle, hdebit, debit_rounding hwithdrawn hamount hdebit⟩)

/-- A third of a point, to as many places as an amount can have. -/
def third : Amount := .of 3333333333333333333333333333 28

/-- A third of a point is credited, and a tenth is spent of it: no place is lost. -/
theorem exact_iff_representable_tenth :
    let b : Balance := ⟨third, .zero⟩
    ∃ b', b.debit (.of 1 1) = (.ok (), b') ∧
      b'.current.value = b.current.value - (Amount.of 1 1).value ∧
      b'.withdrawn.value = b.withdrawn.value + (Amount.of 1 1).value := by
  intro b
  have hthird : third.checkCredit = .ok () := by decide
  have hb : b.Reached := .credit .zero hthird (by decide)
  rcases (exact_iff_representable hb (.of 1 1)).2 (by decide) with
    ⟨hmore, -⟩ | ⟨-, hbrim, -⟩ | ⟨b', -, hdebit, hcurrent, hwithdrawn⟩
  · exact absurd hmore (by decide)
  · exact absurd hbrim (by decide)
  · refine ⟨b', hdebit, hcurrent.exact_iff.2 ⟨.of 2333333333333333333333333333 28, ?_⟩,
      hwithdrawn.exact_iff.2 ⟨.of 1 1, ?_⟩⟩ <;> decide

/-- Ten points are credited on top of the third: the last place of the sum is lost. -/
theorem place_lost :
    let ten : Amount := .of 10 0
    let b : Balance := ⟨third, .zero⟩
    let b' : Balance := ⟨.of 10333333333333333333333333333 27, .zero⟩
    third.checkCredit = .ok () ∧ zero.credit third = .ok b ∧
      ten.checkCredit = .ok () ∧ b.credit ten = .ok b' ∧
      b'.current.value ≠ b.current.value + ten.value := by
  decide

end Loyalty.Balance
