import Loyalty.Proofs.Amount.Sum
import Mathlib.Algebra.Order.Field.Basic
import Mathlib.Data.Rat.Cast.Order
import Mathlib.Tactic.FieldSimp
import Mathlib.Tactic.Linarith

/-!
# Amounts are checked by their values

An amount stands for a rational number (`Amount.toRat`), and many amounts stand for the same one:
`1.5`, `1.50` and `1.500` do. Whether an amount may be spent is found out from its parts, by
dropping the zeros at the end of its coefficient and looking at the scale that is left. All the same
it depends on the number alone (`spent_by_value`): the number has to be positive and a hundred times
it has to be an integer.
-/

namespace Loyalty.Amount

variable {a b : Amount}

/-- The number that an amount stands for. -/
def toRat (a : Amount) : ℚ := a.signed / 10 ^ a.scale

theorem cast_tenTo (n : Nat) : ((tenTo n : Nat) : ℚ) = 10 ^ n := by
  rw [tenTo, Nat.pow_eq, Nat.cast_pow]
  rfl

/-- The value counts the grains of the number. -/
theorem toRat_mul_grains (a : Amount) : a.toRat * 10 ^ 28 = a.value := by
  have hsplit : (10 : ℚ) ^ 28 = 10 ^ a.scale * 10 ^ (28 - a.scale) := by
    rw [← pow_add, Nat.add_sub_cancel' a.scale_le]
  rw [toRat, hsplit, ← mul_assoc, div_mul_cancel₀ _ (pow_ne_zero _ (by norm_num)), value, signedAt,
    Int.cast_mul, Int.cast_natCast, cast_tenTo]

theorem value_eq_iff_toRat_eq : a.value = b.value ↔ a.toRat = b.toRat := by
  rw [← Int.cast_inj (α := ℚ), ← toRat_mul_grains, ← toRat_mul_grains,
    mul_left_inj' (pow_ne_zero _ (by norm_num))]

theorem value_pos_iff : 0 < a.value ↔ 0 < a.toRat := by
  rw [← Int.cast_pos (R := ℚ), ← toRat_mul_grains]
  exact mul_pos_iff_of_pos_right (by positivity)

/-- Whole hundredths are the numbers that a hundred times make an integer. -/
theorem hundredth_dvd_iff : (hundredth : Int) ∣ a.value ↔ ∃ n : ℤ, 100 * a.toRat = n := by
  refine exists_congr fun n => ?_
  rw [← Int.cast_inj (α := ℚ), ← toRat_mul_grains, Int.cast_mul, Int.cast_natCast, hundredth,
    cast_tenTo]
  constructor <;> intro h <;> linarith

/-- Which answer an amount gets, by the number that it stands for. -/
theorem checkSpend_by_toRat (a : Amount) :
    (a.checkSpend = .ok () ↔ 0 < a.toRat ∧ ∃ n : ℤ, 100 * a.toRat = n) ∧
    (a.checkSpend = .error (.amountNotPositive a) ↔ a.toRat ≤ 0) ∧
    (a.checkSpend = .error (.amountTooFine a) ↔ 0 < a.toRat ∧ ¬ ∃ n : ℤ, 100 * a.toRat = n) := by
  rw [← hundredth_dvd_iff, ← value_pos_iff, ← not_lt (a := (0 : ℚ)), ← value_pos_iff]
  rcases a.checkSpend_cases with ⟨⟨hpos, hdvd⟩, e⟩ | ⟨cause, hcause, e⟩
  · simp [e, hpos, hdvd]
  · cases hcause with
    | notPositive hle => simp [e, hle]
    | fine hpos hfine => simp [e, hpos, hfine]

/-- An amount may be spent if and only if the number that it stands for is positive and a hundred
    times it is an integer. Amounts that stand for one number get the same answer, whatever their
    scales: both may be spent, or both are refused, and for the same reason. -/
theorem spent_by_value :
    (∀ a : Amount, a.checkSpend = .ok () ↔ 0 < a.toRat ∧ ∃ n : ℤ, 100 * a.toRat = n) ∧
    ∀ a b : Amount, a.toRat = b.toRat →
      (a.checkSpend = .ok () ↔ b.checkSpend = .ok ()) ∧
      (a.checkSpend = .error (.amountNotPositive a) ↔
        b.checkSpend = .error (.amountNotPositive b)) ∧
      (a.checkSpend = .error (.amountTooFine a) ↔ b.checkSpend = .error (.amountTooFine b)) := by
  refine ⟨fun a => a.checkSpend_by_toRat.1, fun a b h => ?_⟩
  obtain ⟨hok, hnot, hfine⟩ := a.checkSpend_by_toRat
  obtain ⟨hok', hnot', hfine'⟩ := b.checkSpend_by_toRat
  rw [hok, hnot, hfine, hok', hnot', hfine', h]
  exact ⟨Iff.rfl, Iff.rfl, Iff.rfl⟩

/-- `1.5` may be spent, and with it `1.500`, which has three places. -/
theorem spent_by_value_padded :
    (of 15 1).toRat = (of 1500 3).toRat ∧ (of 15 1).scale = 1 ∧ (of 1500 3).scale = 3 ∧
      (of 1500 3).checkSpend = .ok () := by
  have hsame : (of 15 1).toRat = (of 1500 3).toRat := value_eq_iff_toRat_eq.1 (by decide)
  obtain ⟨hiff, halike⟩ := spent_by_value
  have hspent : (of 15 1).checkSpend = .ok () := by decide
  exact ⟨hsame, by decide, by decide, (halike _ _ hsame).1.1 hspent⟩

end Loyalty.Amount
