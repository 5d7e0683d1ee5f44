import Loyalty.Amount.Basic
import Loyalty.Double.Text

/-!
# Amounts as doubles

An amount without places becomes the nearest double. Another is put together
from its whole part and its fraction, each a double, and the sum is rounded at
the places of the amount: it is multiplied by a power of ten, rounded to a
whole number, and divided again.
-/

namespace Loyalty.Amount

open Loyalty

/-- The double that an amount is shown as. -/
def toDouble (a : Amount) : Double :=
  let magnitude :=
    if a.scale = 0 then Double.ofNat a.coefficient
    else
      let unit := tenTo a.scale
      let whole := Double.ofNat (a.coefficient / unit)
      let part := (Double.ofNat (a.coefficient % unit)).div (Double.ofNat unit)
      if part.mantissa = 0 then whole
      else
        let power := Double.powFrom (Double.ofNat 1) (Double.ofNat 10) a.scale
        (((whole.add part).mul power).round).div power
  { magnitude with negative := a.negative }

/-- The compact text of the double of an amount. -/
def doubleChars (a : Amount) : List Char := a.toDouble.compactChars

end Loyalty.Amount
