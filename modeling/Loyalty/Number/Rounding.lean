/-!
# Rounding a quotient

The whole number nearest to a quotient of natural numbers. The two rules differ
on a quotient that lies halfway between two whole numbers: one takes the even
of the two, the other the larger.
-/

namespace Loyalty.Rounding

/-- The whole number nearest to `n / d`, the even one of two. -/
def halfEven (n d : Nat) : Nat :=
  let q := n / d
  let r := n % d
  if 2 * r < d then q
  else if 2 * r > d then q + 1
  else if q % 2 = 0 then q else q + 1

/-- The whole number nearest to `n / d`, the larger one of two. -/
def halfUp (n d : Nat) : Nat := (2 * n + d) / (2 * d)

end Loyalty.Rounding
