import Loyalty.Number.Power

/-!
# Amounts of points

An amount is a decimal number: a sign, a coefficient of at most 96 bits and a
scale of at most 28 decimal places. The scale is part of an amount, so that
`1.50` and `1.5` differ, but they have one `value`, and amounts are ordered by
their values.

Values are whole numbers of *grains*, the smallest step `10 ^ -28` that any
amount can tell apart: a value is then an integer, and sums of values are
exact.
-/

namespace Loyalty

/-- The bound of coefficients: 96 bits. -/
abbrev Amount.limit : Nat := 79228162514264337593543950336

/-- A decimal number with a fixed number of places. A zero may have a sign,
    which is written and counts for nothing else. -/
structure Amount where
  negative : Bool
  coefficient : Nat
  scale : Nat
  coefficient_lt : coefficient < Amount.limit
  scale_le : scale ≤ 28
  deriving DecidableEq

namespace Amount

/-- The finest scale. -/
abbrev finest : Nat := 28

/-- The amount with these parts, if they are in range. -/
def ofSignedParts? (negative : Bool) (coefficient scale : Nat) : Option Amount :=
  if h : coefficient < limit ∧ scale ≤ 28 then
    some { negative, coefficient, scale, coefficient_lt := h.1, scale_le := h.2 }
  else none

/-- The amount with these parts, if they are in range; zero gets no sign. -/
def ofParts? (negative : Bool) (coefficient scale : Nat) : Option Amount :=
  ofSignedParts? (negative && coefficient != 0) coefficient scale

/-- No points, without decimal places. -/
def zero : Amount where
  negative := false
  coefficient := 0
  scale := 0
  coefficient_lt := by decide
  scale_le := by decide

instance : Inhabited Amount := ⟨zero⟩

/-- The coefficient with its sign. -/
def signed (a : Amount) : Int := if a.negative then -(a.coefficient : Int) else a.coefficient

/-- The coefficient, with its sign, at a scale that is no coarser. -/
def signedAt (a : Amount) (scale : Nat) : Int := a.signed * tenTo (scale - a.scale)

/-- The value in grains of `10 ^ -28`. -/
def value (a : Amount) : Int := a.signedAt finest

instance : LE Amount := ⟨fun a b => a.value ≤ b.value⟩
instance : LT Amount := ⟨fun a b => a.value < b.value⟩
instance (a b : Amount) : Decidable (a ≤ b) := inferInstanceAs (Decidable (a.value ≤ b.value))
instance (a b : Amount) : Decidable (a < b) := inferInstanceAs (Decidable (a.value < b.value))

theorem le_def {a b : Amount} : a ≤ b ↔ a.value ≤ b.value := Iff.rfl
theorem lt_def {a b : Amount} : a < b ↔ a.value < b.value := Iff.rfl

/-- The coefficient and scale left when zeros at the end are dropped. -/
def trimZeros (coefficient : Nat) : Nat → Nat × Nat
  | 0 => (coefficient, 0)
  | scale + 1 =>
    if coefficient % 10 = 0 then trimZeros (coefficient / 10) scale
    else (coefficient, scale + 1)

/-- The number of decimal places that the value needs. -/
def places (a : Amount) : Nat := (trimZeros a.coefficient a.scale).2

end Amount
end Loyalty
