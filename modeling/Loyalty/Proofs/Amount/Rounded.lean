import Loyalty.Proofs.Amount.Sum

/-!
# Rounded sums

What holds of a sum whether or not places are dropped from it. The sum is taken
at the larger of the two scales, and the fewer places are left, the coarser is
the grid that it is rounded to.

* `add?_eq_none_iff`: two amounts that come to no less than nothing overflow if and only
  if they come to half a point less than `2 ^ 96` points, or more;
* `isSome_sub?`: a difference that comes to no less than nothing never does;
* `nonneg_add?`: a sum that comes to no less than nothing is not negative;
* `le_add?`: a sum is no less than either part, if the other is not negative.
  The grid may have become too coarse for the part, but a grid is left only by
  a sum that no coefficient on it can reach;
* `isRounding_add?`: a sum is exact if and only if some amount has its value, and otherwise no
  more than half a unit of the last place away from it.
-/

namespace Loyalty

namespace Rounding

variable {n d k : Nat}

/-- A quotient is at most half a unit away from what it is rounded to. -/
theorem halfEven_bounds (n : Nat) (hd : 0 < d) :
    2 * n ≤ 2 * (halfEven n d * d) + d ∧ 2 * (halfEven n d * d) ≤ 2 * n + d := by
  have hdiv : n / d * d + n % d = n := Nat.div_add_mod' n d
  have hmod : n % d < d := Nat.mod_lt n hd
  have hsucc : (n / d + 1) * d = n / d * d + d := Nat.succ_mul _ _
  simp only [halfEven]
  split_ifs <;> omega

/-- What is nearer to a whole number than to those below it, or above it, is not
    rounded below it. -/
theorem le_halfEven (hd : 0 < d) (h : 2 * (k * d) < 2 * n + d) : k ≤ halfEven n d := by
  by_contra hlt
  have hmul : (halfEven n d + 1) * d ≤ k * d := Nat.mul_le_mul_right d (Nat.lt_of_not_le hlt)
  have hbound := (halfEven_bounds n hd).1
  rw [Nat.add_mul, Nat.one_mul] at hmul
  omega

/-- What is no less than half a unit below an even number is rounded up to it,
    or above it. -/
theorem le_halfEven_iff (hd : 0 < d) (hk : k % 2 = 0) :
    k ≤ halfEven n d ↔ 2 * (k * d) ≤ 2 * n + d := by
  constructor
  · intro hle
    have hmul : k * d ≤ halfEven n d * d := Nat.mul_le_mul_right d hle
    have hbound := (halfEven_bounds n hd).2
    omega
  · intro hle
    rcases hle.lt_or_eq with hlt | htie
    · exact le_halfEven hd hlt
    · -- Halfway between an odd number and `k`, the tie goes to `k`.
      have hdiv : n / d * d + n % d = n := Nat.div_add_mod' n d
      have hmod : n % d < d := Nat.mod_lt n hd
      have hquot : k = n / d + 1 := by
        have hlow : n / d * d < k * d := by omega
        have hhigh : k * d < (n / d + 2) * d := by rw [Nat.add_mul]; omega
        have := Nat.lt_of_mul_lt_mul_right hlow
        have := Nat.lt_of_mul_lt_mul_right hhigh
        omega
      have hhalf : 2 * (n % d) = d := by
        rw [hquot, Nat.add_mul, Nat.one_mul] at htie
        omega
      simp only [halfEven]
      split_ifs <;> omega

end Rounding

namespace Amount

open Rounding

variable {a b c : Amount} {n scale k e d co : Nat}

/-- The value from which on a sum overflows: half a point below `2 ^ 96` points. -/
def brim : Nat := limit * tenTo 28 - 5 * tenTo 27

theorem tenTo_le_tenTo (h : d ≤ e) : tenTo d ≤ tenTo e := Nat.pow_le_pow_right (by decide) h

/-! ## Where a grid ends -/

/-- What has no room on a grid is, on it, at most half a unit below `2 ^ 96`. -/
theorem limit_le_halfEven :
    limit ≤ halfEven n (tenTo d) ↔ 2 * (limit * tenTo d) ≤ 2 * n + tenTo d :=
  le_halfEven_iff (tenTo_pos d) (by decide)

/-- No more places are dropped than it takes. -/
theorem fit?_eq_some {places : Nat} (h : fit? n scale = some (co, places)) :
    ∃ d ≤ scale, places = scale - d ∧ co = halfEven n (tenTo d) ∧ co < limit ∧
      ∀ e < d, limit ≤ halfEven n (tenTo e) := by
  obtain ⟨d, hd, hfit, hbefore⟩ := findSome?_range_eq_some h
  dsimp only at hfit hbefore
  split_ifs at hfit with hlt
  obtain ⟨rfl, rfl⟩ : halfEven n (tenTo d) = co ∧ scale - d = places := by simpa using hfit
  refine ⟨d, Nat.le_of_lt_succ hd, rfl, rfl, hlt, fun e he => ?_⟩
  by_contra hroom
  have := hbefore e he
  rw [if_pos (Nat.lt_of_not_le hroom)] at this
  cases this

/-- There is no room if there is none without decimal places. -/
theorem fit?_eq_none_iff :
    fit? n scale = none ↔ 2 * (limit * tenTo scale) ≤ 2 * n + tenTo scale := by
  have hnone : fit? n scale = none ↔ ∀ d < scale + 1, limit ≤ halfEven n (tenTo d) := by
    simp only [fit?, List.findSome?_eq_none_iff, List.mem_range, ite_eq_right_iff, reduceCtorEq,
      imp_false, Nat.not_lt]
  rw [hnone]
  constructor
  · exact fun h => limit_le_halfEven.1 (h scale (Nat.lt_succ_self scale))
  · intro h d hd
    have hgrid := tenTo_le_tenTo (Nat.le_of_lt_succ hd)
    rw [limit_le_halfEven]
    simp only [limit] at h ⊢
    omega

/-- What has a coefficient on some grid, and is no more than `n`, is no more than
    what `n` is rounded to. -/
theorem le_fit? {places : Nat} (h : fit? n scale = some (co, places)) (hk : k < limit)
    (hle : k * tenTo e ≤ n) : k * tenTo e ≤ co * tenTo (scale - places) := by
  obtain ⟨d, hd, rfl, rfl, -, hbefore⟩ := fit?_eq_some h
  rw [Nat.sub_sub_self hd]
  by_cases hfine : d ≤ e
  · -- The grid has the number itself, which is not passed over.
    have hsplit : k * tenTo e = k * tenTo (e - d) * tenTo d := by
      rw [Nat.mul_assoc, ← tenTo_add, Nat.sub_add_cancel hfine]
    rw [hsplit] at hle ⊢
    have hpos := tenTo_pos d
    exact Nat.mul_le_mul_right _ (le_halfEven hpos (by omega))
  · -- The grid is coarser: one ten times as fine had no room for `n`, but it has
    -- for the number.
    obtain ⟨f, rfl⟩ : ∃ f, d = f + 1 := ⟨d - 1, by omega⟩
    have hroom := limit_le_halfEven.1 (hbefore f (Nat.lt_succ_self f))
    have hnumber : k * tenTo e ≤ (limit - 1) * tenTo f :=
      Nat.mul_le_mul (Nat.le_sub_one_of_lt hk) (tenTo_le_tenTo (by omega))
    have hnext : limit / 10 + 1 ≤ halfEven n (tenTo (f + 1)) := by
      refine le_halfEven (tenTo_pos _) ?_
      have hpos := tenTo_pos f
      rw [tenTo_succ]
      simp only [limit] at hroom ⊢
      omega
    calc k * tenTo e ≤ (limit - 1) * tenTo f := hnumber
      _ ≤ (limit / 10 + 1) * tenTo (f + 1) := by rw [tenTo_succ]; simp only [limit]; omega
      _ ≤ halfEven n (tenTo (f + 1)) * tenTo (f + 1) := Nat.mul_le_mul_right _ hnext

/-! ## Sums that are not negative -/

theorem two_mul_brim : 2 * brim + tenTo 28 = 2 * (limit * tenTo 28) := by decide

/-- No amount overflows by itself. -/
theorem value_lt_brim (a : Amount) : a.value < brim := by
  have hmul : a.value.natAbs ≤ (limit - 1) * tenTo 28 := by
    rw [natAbs_value]
    exact Nat.mul_le_mul (Nat.le_sub_one_of_lt a.coefficient_lt)
      (tenTo_le_tenTo (Nat.sub_le 28 a.scale))
  have hbrim : (limit - 1) * tenTo 28 < brim := by decide
  omega

/-- What fits on a grid is an amount of the places left. -/
theorem ofParts?_of_fit? {places : Nat} (hscale : scale ≤ 28)
    (h : fit? n scale = some (co, places)) :
    places ≤ scale ∧ ∃ c, ofParts? false co places = some c ∧ c.scale = places ∧
      c.value = (co : Int) * (tenTo (28 - places) : Nat) := by
  obtain ⟨d, -, rfl, -, hco, -⟩ := fit?_eq_some h
  have hplaces : scale - d ≤ scale := Nat.sub_le scale d
  obtain ⟨c, hc, hvalue⟩ := value_of_ofParts? false hco (hplaces.trans hscale)
  exact ⟨hplaces, c, hc, scale_of_ofParts? hc, hvalue⟩

/-- What becomes of two amounts that come to no less than nothing: one of them
    stays, if the other is zero, or what they come to at the larger of their
    scales is put on a grid, if there is one with room for it. -/
theorem add?_cases (hsum : 0 ≤ a.value + b.value) :
    (a.value = 0 ∧ a.add? b = some b) ∨ (b.value = 0 ∧ a.add? b = some a) ∨
      ∃ n : Nat, (n : Int) * (tenTo (28 - max a.scale b.scale) : Nat) = a.value + b.value ∧
        ((fit? n (max a.scale b.scale) = none ∧ a.add? b = none) ∨
          ∃ co places c, fit? n (max a.scale b.scale) = some (co, places) ∧
            places ≤ max a.scale b.scale ∧ a.add? b = some c ∧ c.scale = places ∧
            c.value = (co : Int) * (tenTo (28 - places) : Nat)) := by
  by_cases ha : a.coefficient = 0
  · exact .inl ⟨value_of_coefficient_eq_zero ha, if_pos ha⟩
  by_cases hb : b.coefficient = 0
  · exact .inr (.inl ⟨value_of_coefficient_eq_zero hb, by rw [add?, if_neg ha, if_pos hb]⟩)
  refine .inr (.inr ?_)
  have hmul := signedAt_add_mul a b
  rw [add?, if_neg ha, if_neg hb]
  dsimp only
  generalize a.signedAt (max a.scale b.scale) + b.signedAt (max a.scale b.scale) = m at hmul ⊢
  have hm : 0 ≤ m := by
    have hpos : (0 : Int) < (tenTo (28 - max a.scale b.scale) : Nat) :=
      Int.natCast_pos.2 (tenTo_pos _)
    rw [← hmul] at hsum
    exact nonneg_of_mul_nonneg_left hsum hpos
  obtain ⟨n, rfl⟩ := Int.eq_ofNat_of_zero_le hm
  refine ⟨n, hmul, ?_⟩
  rw [ofSigned?, Int.natAbs_natCast, decide_eq_false (not_lt.2 hm)]
  cases hfit : fit? n (max a.scale b.scale) with
  | none => exact .inl ⟨rfl, rfl⟩
  | some parts =>
    obtain ⟨hplaces, c, hc, hscale, hvalue⟩ := ofParts?_of_fit? (max_scale_le a b) hfit
    exact .inr ⟨parts.1, parts.2, c, rfl, hplaces, hc, hscale, hvalue⟩

/-- Two amounts that come to no less than nothing overflow if and only if they come to
    the brim. -/
theorem add?_eq_none_iff (hsum : 0 ≤ a.value + b.value) :
    a.add? b = none ↔ brim ≤ a.value + b.value := by
  have habrim := value_lt_brim a
  have hbbrim := value_lt_brim b
  rcases add?_cases hsum with ⟨hzero, h⟩ | ⟨hzero, h⟩ | ⟨n, hn, h⟩
  · rw [h]
    simp only [reduceCtorEq, false_iff]
    omega
  · rw [h]
    simp only [reduceCtorEq, false_iff]
    omega
  · have hfit : a.add? b = none ↔ fit? n (max a.scale b.scale) = none := by
      rcases h with ⟨hnone, hadd⟩ | ⟨co, places, c, hsome, -, hadd, -⟩
      · exact iff_of_true hadd hnone
      · exact iff_of_false (by simp [hadd]) (by simp [hsome])
    rw [hfit, fit?_eq_none_iff, ← hn]
    -- One bound, on the grid and in grains.
    have hscale := max_scale_le a b
    generalize max a.scale b.scale = scale at hscale
    have hbrim := two_mul_brim
    have hpos := tenTo_pos (28 - scale)
    have hsplit : tenTo 28 = tenTo scale * tenTo (28 - scale) := by
      rw [← tenTo_add, Nat.add_sub_cancel' hscale]
    rw [hsplit] at hbrim
    rw [← Nat.mul_le_mul_right_iff hpos, Nat.add_mul, Nat.mul_assoc 2, Nat.mul_assoc limit,
      Nat.mul_assoc 2, ← Nat.cast_mul]
    omega

/-- What is covered can be taken away: the difference never overflows. -/
theorem isSome_sub? (hb : 0 ≤ b.value) (hle : b ≤ a) : (a.sub? b).isSome := by
  have hneg : a.value + b.neg.value = a.value - b.value := by rw [value_neg, Int.sub_eq_add_neg]
  have hsum : 0 ≤ a.value + b.neg.value := hneg ▸ Int.sub_nonneg_of_le hle
  rw [← Option.ne_none_iff_isSome, sub?, ne_eq, add?_eq_none_iff hsum, hneg]
  have := value_lt_brim a
  omega

/-- A sum that comes to no less than nothing is not negative. -/
theorem nonneg_add? (h : a.add? b = some c) (hsum : 0 ≤ a.value + b.value) : 0 ≤ c.value := by
  rcases add?_cases hsum with ⟨hzero, h'⟩ | ⟨hzero, h'⟩ | ⟨n, -, h' | h'⟩
  · obtain rfl : b = c := by simpa [h'] using h
    omega
  · obtain rfl : a = c := by simpa [h'] using h
    omega
  · rw [h'.2] at h
    cases h
  · obtain ⟨co, places, c', -, -, hadd, -, hvalue⟩ := h'
    obtain rfl : c' = c := by simpa [hadd] using h
    rw [hvalue]
    exact Int.mul_nonneg (Int.natCast_nonneg _) (Int.natCast_nonneg _)

/-- What is left of an amount that covers another is not negative. -/
theorem nonneg_sub? (h : a.sub? b = some c) (hle : b ≤ a) : 0 ≤ c.value := by
  refine nonneg_add? h ?_
  rw [value_neg]
  exact Int.sub_nonneg_of_le hle

/-- A sum of two amounts that are not negative is no less than the first. -/
theorem le_add? (h : a.add? b = some c) (ha : 0 ≤ a.value) (hb : 0 ≤ b.value) :
    a.value ≤ c.value := by
  rcases add?_cases (Int.add_nonneg ha hb) with ⟨hzero, h'⟩ | ⟨hzero, h'⟩ | ⟨n, hn, h' | h'⟩
  · obtain rfl : b = c := by simpa [h'] using h
    omega
  · obtain rfl : a = c := by simpa [h'] using h
    omega
  · rw [h'.2] at h
    cases h
  · obtain ⟨co, places, c', hfit, hplaces, hadd, -, hvalue⟩ := h'
    obtain rfl : c' = c := by simpa [hadd] using h
    have hscale := max_scale_le a b
    have hle : a.scale ≤ max a.scale b.scale := le_max_left _ _
    generalize max a.scale b.scale = scale at *
    -- The first amount, at the larger scale and in grains.
    have hvalue_a :
        a.value = (a.coefficient * tenTo (scale - a.scale) * tenTo (28 - scale) : Nat) := by
      have hsplit : 28 - a.scale = (scale - a.scale) + (28 - scale) := by omega
      rw [Nat.mul_assoc, ← tenTo_add, ← hsplit, ← natAbs_value]
      omega
    have hle_n : a.coefficient * tenTo (scale - a.scale) ≤ n := by
      refine Nat.le_of_mul_le_mul_right ?_ (tenTo_pos (28 - scale))
      rw [← Nat.cast_mul] at hn
      omega
    have hle_fit := Nat.mul_le_mul_right (tenTo (28 - scale)) (le_fit? hfit a.coefficient_lt hle_n)
    have hsplit : 28 - places = (scale - places) + (28 - scale) := by omega
    rw [hvalue, hvalue_a, ← Nat.cast_mul, hsplit, tenTo_add, ← Nat.mul_assoc]
    exact Int.ofNat_le.2 hle_fit

/-! ## What a sum is rounded to -/

/-- Some amount has the value: 96 bits are enough for it. -/
def Representable (v : Int) : Prop := ∃ a : Amount, a.value = v

/-- The amount is what a value is rounded to: the value itself, unless no amount has it, and in any
    case no more than half a unit of the last place away from it. -/
structure IsRounding (c : Amount) (v : Int) : Prop where
  exact_iff : c.value = v ↔ Representable v
  near : 2 * (c.value - v).natAbs ≤ tenTo (28 - c.scale)

theorem isRounding_of_eq {v : Int} (h : c.value = v) : c.IsRounding v :=
  ⟨iff_of_true h ⟨c, h⟩, by rw [h, Int.sub_self]; exact Nat.zero_le _⟩

/-- What is the value of some amount has nothing but zeros dropped. -/
theorem fit?_of_value (hscale : scale ≤ 28)
    (ha : a.value = (n : Int) * (tenTo (28 - scale) : Nat)) :
    ∃ co d, d ≤ scale ∧ fit? n scale = some (co, scale - d) ∧ co < limit ∧ co * tenTo d = n := by
  have hmul : a.coefficient * tenTo (28 - a.scale) = n * tenTo (28 - scale) := by
    rw [← natAbs_value, ha, Int.natAbs_mul, Int.natAbs_natCast, Int.natAbs_natCast]
  have hlimit := a.coefficient_lt
  have hfine := a.scale_le
  rcases Nat.le_total a.scale scale with hle | hle
  · -- All places behind those of the amount are zeros.
    have hsplit : 28 - a.scale = (scale - a.scale) + (28 - scale) := by omega
    rw [hsplit, tenTo_add, ← Nat.mul_assoc] at hmul
    have hn : a.coefficient * tenTo (scale - a.scale) = n :=
      Nat.eq_of_mul_eq_mul_right (tenTo_pos _) hmul
    refine fit?_of_dvd (Nat.sub_le scale a.scale) (Dvd.intro_left _ hn) ?_
    rwa [← hn, Nat.mul_div_cancel _ (tenTo_pos _)]
  · -- The amount has no fewer places, so that there is room for all of them.
    have hsplit : 28 - scale = (a.scale - scale) + (28 - a.scale) := by omega
    rw [hsplit, tenTo_add, ← Nat.mul_assoc] at hmul
    have hn : a.coefficient = n * tenTo (a.scale - scale) :=
      Nat.eq_of_mul_eq_mul_right (tenTo_pos _) hmul
    refine fit?_of_dvd (Nat.zero_le scale) (one_dvd n) ?_
    rw [tenTo_zero, Nat.div_one]
    exact (hn ▸ Nat.le_mul_of_pos_right n (tenTo_pos _)).trans_lt hlimit

/-- What a number is put on a grid as is no more than half a unit of the grid away. -/
theorem fit?_near {places : Nat} (hscale : scale ≤ 28) (h : fit? n scale = some (co, places)) :
    2 * ((co : Int) * (tenTo (28 - places) : Nat) - (n : Int) * (tenTo (28 - scale) : Nat)).natAbs ≤
      tenTo (28 - places) := by
  obtain ⟨d, hd, rfl, rfl, -, -⟩ := fit?_eq_some h
  obtain ⟨hlow, hhigh⟩ := halfEven_bounds n (tenTo_pos d)
  have hsplit : 28 - (scale - d) = d + (28 - scale) := by omega
  have hlow' := Nat.mul_le_mul_right (tenTo (28 - scale)) hlow
  have hhigh' := Nat.mul_le_mul_right (tenTo (28 - scale)) hhigh
  rw [Nat.add_mul, Nat.mul_assoc 2, Nat.mul_assoc 2, Nat.mul_assoc (halfEven _ _)] at hlow' hhigh'
  rw [hsplit, tenTo_add, ← Nat.cast_mul, ← Nat.cast_mul]
  generalize halfEven n (tenTo d) * (tenTo d * tenTo (28 - scale)) = rounded at hlow' hhigh' ⊢
  generalize n * tenTo (28 - scale) = exact at hlow' hhigh' ⊢
  omega

/-- A sum that comes to no less than nothing is exact, or rounded because no amount has its
    value. -/
theorem isRounding_add? (h : a.add? b = some c) (hsum : 0 ≤ a.value + b.value) :
    c.IsRounding (a.value + b.value) := by
  rcases add?_cases hsum with ⟨hzero, h'⟩ | ⟨hzero, h'⟩ | ⟨n, hn, h' | h'⟩
  · obtain rfl : b = c := by simpa [h'] using h
    exact isRounding_of_eq (by omega)
  · obtain rfl : a = c := by simpa [h'] using h
    exact isRounding_of_eq (by omega)
  · rw [h'.2] at h
    cases h
  · obtain ⟨co, places, c', hfit, -, hadd, rfl, hvalue⟩ := h'
    obtain rfl : c' = c := by simpa [hadd] using h
    have hscale := max_scale_le a b
    rw [← hn]
    refine ⟨⟨fun hv => ⟨c', hv⟩, ?_⟩, hvalue ▸ fit?_near hscale hfit⟩
    rintro ⟨x, hx⟩
    obtain ⟨co', d, hd, hfit', -, hmul⟩ := fit?_of_value hscale hx
    obtain ⟨rfl, hplaces⟩ : co = co' ∧ c'.scale = max a.scale b.scale - d := by
      simpa [hfit] using hfit'
    have hsplit : 28 - c'.scale = d + (28 - max a.scale b.scale) := by omega
    rw [hvalue, hsplit, tenTo_add, Nat.cast_mul, ← Int.mul_assoc, ← Nat.cast_mul, hmul]

theorem isRounding_sub? (h : a.sub? b = some c) (hle : b ≤ a) :
    c.IsRounding (a.value - b.value) := by
  have hneg : a.value + b.neg.value = a.value - b.value := by rw [value_neg, Int.sub_eq_add_neg]
  exact hneg ▸ isRounding_add? h (hneg ▸ Int.sub_nonneg_of_le hle)

end Amount
end Loyalty
