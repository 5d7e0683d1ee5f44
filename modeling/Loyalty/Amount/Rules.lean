import Loyalty.Failure

/-!
# Which amounts may be credited and spent

A credit is not negative. A withdrawal is positive and a whole number of
hundredths. Both rules are about values: the scale of an amount does not
matter.
-/

namespace Loyalty.Amount

/-- The decimal places that a withdrawal may need. -/
def spendablePlaces : Nat := 2

/-- Checks an amount that is to be withdrawn. -/
def checkSpend (a : Amount) : Except Invalid Unit :=
  if a ≤ zero then .error (.amountNotPositive a)
  else if a.places > spendablePlaces then .error (.amountTooFine a)
  else .ok ()

/-- Checks an amount that is to be credited. -/
def checkCredit (a : Amount) : Except Invalid Unit :=
  if a < zero then .error (.creditNegative a) else .ok ()

end Loyalty.Amount
