import Loyalty.Amount.Basic
import Loyalty.Number.Rounding

/-!
# Sums of amounts

A sum has the larger scale of its two parts, and is then exact. Where 96 bits
are too few for that, decimal places are dropped, as few as possible, and the
sum is the nearest amount with the places left, a tie going to the even one.
Where no place is left to drop, there is no sum: the sum *overflows*. An
amount of zero is passed over, its scale included: the sum is then the other
amount as it stands.
-/

namespace Loyalty.Amount

/-- `n · 10 ^ -scale` as a coefficient of 96 bits and a scale, with as few
    places dropped as that takes. -/
def fit? (n scale : Nat) : Option (Nat × Nat) :=
  (List.range (scale + 1)).findSome? fun dropped =>
    let c := Rounding.halfEven n (tenTo dropped)
    if c < limit then some (c, scale - dropped) else none

/-- The amount nearest to `n · 10 ^ -scale`. -/
def ofSigned? (n : Int) (scale : Nat) : Option Amount :=
  (fit? n.natAbs scale).bind fun (c, s) => ofParts? (n < 0) c s

/-- The sum of two amounts; nothing if it overflows. -/
def add? (a b : Amount) : Option Amount :=
  if a.coefficient = 0 then some b
  else if b.coefficient = 0 then some a
  else
    let scale := max a.scale b.scale
    ofSigned? (a.signedAt scale + b.signedAt scale) scale

/-- The amount with the other sign; zero stays as it is. -/
def neg (a : Amount) : Amount := if a.coefficient = 0 then a else { a with negative := !a.negative }

/-- The difference of two amounts; nothing if it overflows. -/
def sub? (a b : Amount) : Option Amount := a.add? b.neg

end Loyalty.Amount
