import Loyalty.Amount.Rules
import Loyalty.Amount.Sum
import Mathlib.Algebra.Order.Ring.Int

/-!
# Exact sums

A sum of amounts drops decimal places where 96 bits are too few, and so may be
rounded. It is exact where both amounts are whole hundredths and their sum has
no more of them than 96 bits can count (`value_add?`): whatever scales the two
carry, all that is dropped are zeros, as two places are then enough. The same
holds of differences (`value_sub?`). What may be spent is a positive number of
whole hundredths (`checkSpend_spec`).
-/

namespace Loyalty

namespace Amount

variable {a b : Amount} {n scale e : Nat}

/-- The amount `coefficient / 10 ^ scale`, or zero where that is out of range. -/
def of (coefficient scale : Nat) : Amount := (ofParts? false coefficient scale).getD zero

/-- A hundredth, in grains. -/
def hundredth : Nat := tenTo 26

theorem hundredth_pos : 0 < hundredth := tenTo_pos 26

theorem le_iff_not_lt : a ≤ b ↔ ¬ b < a := (not_lt (a := b.value) (b := a.value)).symm

/-! ## Values at a scale -/

theorem value_of_coefficient_eq_zero (h : a.coefficient = 0) : a.value = 0 := by
  simp [value, signedAt, signed, h]

theorem value_zero : zero.value = 0 := value_of_coefficient_eq_zero rfl

theorem natAbs_value (a : Amount) : a.value.natAbs = a.coefficient * tenTo (28 - a.scale) := by
  rw [value, signedAt, Int.natAbs_mul, Int.natAbs_natCast, signed]
  split_ifs <;> simp

/-- The value, from the coefficient at a scale in between. -/
theorem signedAt_mul (h : a.scale ≤ scale) (hscale : scale ≤ 28) :
    a.signedAt scale * (tenTo (28 - scale) : Nat) = a.value := by
  have hsplit : 28 - a.scale = (scale - a.scale) + (28 - scale) := by omega
  rw [value, signedAt, signedAt, hsplit, tenTo_add, Nat.cast_mul, Int.mul_assoc]

theorem max_scale_le (a b : Amount) : max a.scale b.scale ≤ 28 := max_le a.scale_le b.scale_le

/-- At the larger of two scales the coefficients add up exactly. -/
theorem signedAt_add_mul (a b : Amount) :
    (a.signedAt (max a.scale b.scale) + b.signedAt (max a.scale b.scale)) *
      (tenTo (28 - max a.scale b.scale) : Nat) = a.value + b.value := by
  rw [Int.add_mul, signedAt_mul (le_max_left _ _) (max_scale_le a b),
    signedAt_mul (le_max_right _ _) (max_scale_le a b)]

theorem value_neg (a : Amount) : a.neg.value = -a.value := by
  rw [neg]
  split_ifs with h
  · rw [value_of_coefficient_eq_zero h, Int.neg_zero]
  · cases hn : a.negative <;> simp [value, signedAt, signed, hn]

/-- The value of an amount that is put together. -/
theorem value_of_ofParts? (negative : Bool) {c : Nat} (hc : c < limit) (hscale : scale ≤ 28) :
    ∃ a, ofParts? negative c scale = some a ∧
      a.value = (if negative then -(c : Int) else c) * (tenTo (28 - scale) : Nat) := by
  refine ⟨_, dif_pos ⟨hc, hscale⟩, ?_⟩
  by_cases hzero : c = 0
  · subst hzero
    simp [value, signedAt, signed]
  · cases negative <;> simp [value, signedAt, signed, hzero]

theorem scale_of_ofParts? {negative : Bool} {c : Nat} (h : ofParts? negative c scale = some a) :
    a.scale = scale := by
  rw [ofParts?, ofSignedParts?] at h
  split_ifs at h
  cases h
  rfl

/-! ## What is dropped -/

theorem halfEven_of_dvd {d : Nat} (hd : 0 < d) (h : d ∣ n) : Rounding.halfEven n d = n / d := by
  have hr : n % d = 0 := Nat.mod_eq_zero_of_dvd h
  simp [Rounding.halfEven, hr, hd]

/-- The first of some numbers that does has the say. -/
theorem findSome?_range_eq_some {α : Type} {f : Nat → Option α} {x : α}
    (h : (List.range n).findSome? f = some x) :
    ∃ d < n, f d = some x ∧ ∀ e < d, f e = none := by
  induction n with
  | zero => cases h
  | succ n ih =>
    rw [List.range_succ, List.findSome?_append] at h
    cases hfirst : (List.range n).findSome? f with
    | some y =>
      rw [hfirst, Option.some_or] at h
      obtain ⟨d, hd, hx, hbefore⟩ := ih (hfirst.trans h)
      exact ⟨d, Nat.lt_succ_of_lt hd, hx, hbefore⟩
    | none =>
      rw [hfirst, Option.none_or, List.findSome?_singleton] at h
      exact ⟨n, Nat.lt_succ_self n, h, fun e he =>
        List.findSome?_eq_none_iff.1 hfirst e (List.mem_range.2 he)⟩

/-- Where one number does, it or an earlier one has the say. -/
theorem findSome?_range {α : Type} {f : Nat → Option α} (he : e < n) (hf : (f e).isSome) :
    ∃ d ≤ e, (List.range n).findSome? f = f d ∧ (f d).isSome := by
  have hsome : ((List.range n).findSome? f).isSome :=
    List.findSome?_isSome_iff.2 ⟨e, List.mem_range.2 he, hf⟩
  obtain ⟨x, hx⟩ := Option.isSome_iff_exists.1 hsome
  obtain ⟨d, -, hd, hbefore⟩ := findSome?_range_eq_some hx
  refine ⟨d, ?_, hx.trans hd.symm, by rw [hd]; rfl⟩
  by_contra hlt
  rw [hbefore e (Nat.lt_of_not_le hlt)] at hf
  cases hf

/-- Where so many places can be dropped that only zeros are, no others are
    dropped. -/
theorem fit?_of_dvd (he : e ≤ scale) (hdvd : tenTo e ∣ n) (hlt : n / tenTo e < limit) :
    ∃ c d, d ≤ scale ∧ fit? n scale = some (c, scale - d) ∧ c < limit ∧ c * tenTo d = n := by
  -- Dropping fewer places drops zeros only, too.
  have hround : ∀ d ≤ e, Rounding.halfEven n (tenTo d) = n / tenTo d := by
    intro d hd
    refine halfEven_of_dvd (tenTo_pos d) (Dvd.dvd.trans ⟨tenTo (e - d), ?_⟩ hdvd)
    rw [← tenTo_add, Nat.add_sub_cancel' hd]
  obtain ⟨d, hd, hfind, hsome⟩ := findSome?_range (n := scale + 1) (e := e)
    (f := fun dropped => if Rounding.halfEven n (tenTo dropped) < limit then
      some (Rounding.halfEven n (tenTo dropped), scale - dropped) else none)
    (by omega) (by rw [hround e le_rfl, if_pos hlt]; rfl)
  have hc : Rounding.halfEven n (tenTo d) < limit := by
    by_contra hge
    rw [if_neg hge] at hsome
    cases hsome
  rw [if_pos hc] at hfind
  refine ⟨Rounding.halfEven n (tenTo d), d, hd.trans he, hfind, hc, ?_⟩
  rw [hround d hd]
  refine Nat.div_mul_cancel (Dvd.dvd.trans ⟨tenTo (e - d), ?_⟩ hdvd)
  rw [← tenTo_add, Nat.add_sub_cancel' hd]

/-- Whole hundredths, few enough of them, have all their places dropped but two. -/
theorem fit?_of_hundredths (hscale : scale ≤ 28) (hdvd : hundredth ∣ n * tenTo (28 - scale))
    (hlt : n * tenTo (28 - scale) < limit * hundredth) :
    ∃ c d, d ≤ scale ∧ fit? n scale = some (c, scale - d) ∧ c < limit ∧ c * tenTo d = n := by
  by_cases hfine : 2 ≤ scale
  · -- All places behind the second can be dropped.
    have hsplit : hundredth = tenTo (scale - 2) * tenTo (28 - scale) := by
      rw [← tenTo_add, hundredth]
      congr 1
      omega
    rw [hsplit] at hdvd hlt
    have hdvd' : tenTo (scale - 2) ∣ n := Nat.dvd_of_mul_dvd_mul_right (tenTo_pos _) hdvd
    rw [← Nat.mul_assoc] at hlt
    refine fit?_of_dvd (Nat.sub_le scale 2) hdvd' ?_
    exact (Nat.div_lt_iff_lt_mul (tenTo_pos _)).2 (Nat.lt_of_mul_lt_mul_right hlt)
  · -- There are two places at most, and none has to be dropped.
    have hle : hundredth ≤ tenTo (28 - scale) := by
      have hsplit : 28 - scale = 26 + (2 - scale) := by omega
      rw [hsplit, tenTo_add, ← hundredth]
      exact Nat.le_mul_of_pos_right _ (tenTo_pos _)
    have hn : n < limit :=
      Nat.lt_of_mul_lt_mul_right ((Nat.mul_le_mul_left n hle).trans_lt hlt)
    exact fit?_of_dvd (Nat.zero_le scale) (one_dvd n) (by rwa [tenTo_zero, Nat.div_one])

/-! ## Sums and differences -/

theorem ofSigned?_of_hundredths {m : Int} (hscale : scale ≤ 28)
    (hdvd : (hundredth : Int) ∣ m * (tenTo (28 - scale) : Nat))
    (hlt : (m * (tenTo (28 - scale) : Nat)).natAbs < limit * hundredth) :
    ∃ c, ofSigned? m scale = some c ∧ c.value = m * (tenTo (28 - scale) : Nat) := by
  have habs : (m * (tenTo (28 - scale) : Nat)).natAbs = m.natAbs * tenTo (28 - scale) := by
    rw [Int.natAbs_mul, Int.natAbs_natCast]
  rw [Int.ofNat_dvd_left, habs] at hdvd
  rw [habs] at hlt
  obtain ⟨c, d, hd, hfit, hc, hmul⟩ := fit?_of_hundredths hscale hdvd hlt
  obtain ⟨x, hx, hvalue⟩ :=
    value_of_ofParts? (decide (m < 0)) hc ((Nat.sub_le scale d).trans hscale)
  refine ⟨x, by rw [ofSigned?, hfit]; exact hx, ?_⟩
  have hsplit : 28 - (scale - d) = d + (28 - scale) := by omega
  have hm : (if decide (m < 0) then -(c : Int) else c) * (tenTo d : Nat) = m := by
    have hcast : (c : Int) * (tenTo d : Nat) = m.natAbs := by rw [← Nat.cast_mul, hmul]
    by_cases hneg : m < 0
    · rw [if_pos (decide_eq_true hneg), Int.neg_mul, hcast]
      omega
    · rw [if_neg (by simpa using hneg), hcast]
      omega
  rw [hvalue, hsplit, tenTo_add, Nat.cast_mul, ← Int.mul_assoc, hm]

/-- A sum of whole hundredths is exact. -/
theorem value_add? (ha : (hundredth : Int) ∣ a.value) (hb : (hundredth : Int) ∣ b.value)
    (hlt : (a.value + b.value).natAbs < limit * hundredth) :
    ∃ c, a.add? b = some c ∧ c.value = a.value + b.value := by
  rw [add?]
  split_ifs with hazero hbzero
  · exact ⟨b, rfl, by rw [value_of_coefficient_eq_zero hazero, Int.zero_add]⟩
  · exact ⟨a, rfl, by rw [value_of_coefficient_eq_zero hbzero, Int.add_zero]⟩
  · have hdvd := Int.dvd_add ha hb
    rw [← signedAt_add_mul] at hdvd hlt ⊢
    exact ofSigned?_of_hundredths (max_scale_le a b) hdvd hlt

/-- A difference of whole hundredths is exact. -/
theorem value_sub? (ha : (hundredth : Int) ∣ a.value) (hb : (hundredth : Int) ∣ b.value)
    (hlt : (a.value - b.value).natAbs < limit * hundredth) :
    ∃ c, a.sub? b = some c ∧ c.value = a.value - b.value := by
  rw [Int.sub_eq_add_neg, ← value_neg] at hlt ⊢
  exact value_add? ha (by rwa [value_neg, Int.dvd_neg]) hlt

/-! ## What may be spent -/

/-- What is dropped from the end of a coefficient are zeros. -/
theorem trimZeros_spec (c scale : Nat) :
    (trimZeros c scale).2 ≤ scale ∧
      (trimZeros c scale).1 * tenTo (scale - (trimZeros c scale).2) = c := by
  induction scale generalizing c with
  | zero => exact ⟨le_rfl, Nat.mul_one c⟩
  | succ scale ih =>
    rw [trimZeros]
    split_ifs with hzero
    · obtain ⟨hle, hmul⟩ := ih (c / 10)
      refine ⟨Nat.le_succ_of_le hle, ?_⟩
      rw [Nat.succ_sub hle, tenTo_succ, ← Nat.mul_assoc, hmul]
      exact Nat.div_mul_cancel (Nat.dvd_of_mod_eq_zero hzero)
    · exact ⟨le_rfl, by rw [Nat.sub_self, tenTo_zero, Nat.mul_one]⟩

/-- An amount of two places at most is a number of whole hundredths. -/
theorem dvd_value_of_places (h : a.places ≤ 2) : (hundredth : Int) ∣ a.value := by
  obtain ⟨hle, hmul⟩ := trimZeros_spec a.coefficient a.scale
  rw [← places] at hle hmul
  have hscale := a.scale_le
  have hsplit : a.scale - a.places + (28 - a.scale) = (2 - a.places) + 26 := by omega
  rw [Int.ofNat_dvd_left, natAbs_value, ← hmul, Nat.mul_assoc, ← tenTo_add, hsplit, tenTo_add,
    ← hundredth, ← Nat.mul_assoc]
  exact Nat.dvd_mul_left hundredth _

/-- All zeros at the end are dropped, if they stand behind the point. -/
theorem trimZeros_mod (c scale : Nat) :
    (trimZeros c scale).2 = 0 ∨ (trimZeros c scale).1 % 10 ≠ 0 := by
  induction scale generalizing c with
  | zero => exact .inl rfl
  | succ scale ih =>
    rw [trimZeros]
    split_ifs with hzero
    · exact ih (c / 10)
    · exact .inr hzero

/-- The amounts of whole hundredths are those of two places at most. -/
theorem dvd_value_iff : (hundredth : Int) ∣ a.value ↔ a.places ≤ 2 := by
  refine ⟨fun hdvd => ?_, dvd_value_of_places⟩
  obtain ⟨hle, hmul⟩ := trimZeros_spec a.coefficient a.scale
  rcases trimZeros_mod a.coefficient a.scale with hwhole | hlast <;> rw [← places] at *
  · rw [hwhole]
    exact Nat.zero_le 2
  · -- With a third place, the last of the coefficient that is left would be a zero.
    by_contra hfine
    have hscale := a.scale_le
    have hsplit : a.scale - a.places + (28 - a.scale) = 28 - a.places := by omega
    have hsplit' : 26 = (a.places - 3) + 1 + (28 - a.places) := by omega
    rw [Int.ofNat_dvd_left, natAbs_value, ← hmul, Nat.mul_assoc, ← tenTo_add, hsplit, hundredth,
      hsplit', tenTo_add] at hdvd
    have hten := Nat.dvd_of_mul_dvd_mul_right (tenTo_pos _) hdvd
    rw [tenTo_succ] at hten
    exact hlast (Nat.mod_eq_zero_of_dvd ((Nat.dvd_mul_left 10 _).trans hten))

/-- A positive number of whole hundredths. -/
def Spendable (a : Amount) : Prop := 0 < a.value ∧ (hundredth : Int) ∣ a.value

instance (a : Amount) : Decidable a.Spendable := inferInstanceAs (Decidable (_ ∧ _))

/-- What is first found wrong with an amount that may not be spent. -/
inductive Unspendable (a : Amount) : Invalid → Prop
  | notPositive (le : a.value ≤ 0) : Unspendable a (.amountNotPositive a)
  | fine (pos : 0 < a.value) (fine : ¬ (hundredth : Int) ∣ a.value) :
    Unspendable a (.amountTooFine a)

theorem Unspendable.not_spendable {cause : Invalid} (h : a.Unspendable cause) : ¬ a.Spendable := by
  cases h with
  | notPositive hle => exact fun hspendable => absurd hspendable.1 (not_lt.2 hle)
  | fine _ hfine => exact fun hspendable => hfine hspendable.2

theorem checkSpend_cases (a : Amount) :
    (a.Spendable ∧ a.checkSpend = .ok ()) ∨
      ∃ cause, a.Unspendable cause ∧ a.checkSpend = .error cause := by
  have hle : a ≤ zero ↔ a.value ≤ 0 := by rw [le_def, value_zero]
  by_cases hneg : a ≤ zero
  · exact .inr ⟨_, .notPositive (hle.1 hneg), if_pos hneg⟩
  have hpos : 0 < a.value := not_le.1 (hle.not.1 hneg)
  by_cases hplaces : a.places > spendablePlaces
  · refine .inr ⟨_, .fine hpos fun hdvd => ?_, (if_neg hneg).trans (if_pos hplaces)⟩
    exact absurd (dvd_value_iff.1 hdvd) (Nat.not_le.2 hplaces)
  · refine .inl ⟨⟨hpos, dvd_value_iff.2 ?_⟩, (if_neg hneg).trans (if_neg hplaces)⟩
    exact Nat.le_of_not_lt hplaces

/-- What may be spent is positive and a number of whole hundredths. -/
theorem checkSpend_spec (h : a.checkSpend = .ok ()) : a.Spendable := by
  rcases a.checkSpend_cases with ⟨hspendable, -⟩ | ⟨cause, -, e⟩
  · exact hspendable
  · rw [e] at h
    cases h

/-- What may be credited is not negative. -/
theorem checkCredit_eq_ok : a.checkCredit = .ok () ↔ 0 ≤ a.value := by
  have hlt : a < zero ↔ a.value < 0 := by rw [lt_def, value_zero]
  rw [checkCredit]
  split_ifs with h
  · refine ⟨fun hok => ?_, fun hnonneg => absurd (hlt.1 h) (not_lt.2 hnonneg)⟩
    cases hok
  · exact ⟨fun _ => not_lt.1 (h ∘ hlt.2), fun _ => rfl⟩

/-! ## Totals -/

/-- The sum of some amounts, in grains. -/
def total (l : List Amount) : Int := (l.map value).sum

/-- As many hundredths as 96 bits can count, in grains. -/
def ceiling : Nat := (limit - 1) * hundredth

@[simp] theorem total_nil : total [] = 0 := rfl

@[simp] theorem total_cons (a : Amount) (l : List Amount) : total (a :: l) = a.value + total l :=
  List.sum_cons

@[simp] theorem total_append (l l' : List Amount) : total (l ++ l') = total l + total l' := by
  rw [total, List.map_append, List.sum_append, total, total]

theorem total_nonneg {l : List Amount} (h : ∀ a ∈ l, 0 ≤ a.value) : 0 ≤ total l := by
  induction l with
  | nil => exact le_rfl
  | cons a l ih =>
    obtain ⟨ha, hl⟩ := List.forall_mem_cons.1 h
    rw [total_cons]
    exact Int.add_nonneg ha (ih hl)

/-- What is not above the ceiling can be counted in 96 bits. -/
theorem natAbs_lt {v : Int} (hv : 0 ≤ v) (hle : v ≤ ceiling) : v.natAbs < limit * hundredth := by
  have hlt : ceiling < limit * hundredth :=
    Nat.mul_lt_mul_of_pos_right (by decide) hundredth_pos
  omega

end Amount
end Loyalty
