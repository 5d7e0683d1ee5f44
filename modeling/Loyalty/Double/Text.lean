import Loyalty.Double.Shortest
import Loyalty.Text.Number

/-!
# Doubles as text

Both texts write the shortest decimal of a double. The *plain* text writes all
its places and no point behind a whole number. The *compact* text writes a
whole number with `.0`, and has an exponent from `10 ^ 16` and below
`10 ^ -5`.
-/

namespace Loyalty.Double

open Loyalty.Text

/-- Digits with a point behind the first `whole` of them; zeros are supplied
    on either side. -/
def pointed (ds : List Char) (whole : Int) : List Char :=
  if whole ≤ 0 then '0' :: '.' :: List.replicate (-whole).toNat '0' ++ ds
  else ds.take whole.toNat ++ '.' :: ds.drop whole.toNat

/-- Digits with zeros behind them up to the given length. -/
def padded (ds : List Char) (length : Int) : List Char :=
  ds ++ List.replicate (length.toNat - ds.length) '0'

/-- The minus sign, if there is one. -/
def signChars (x : Double) : List Char := if x.negative then ['-'] else []

/-- The plain text of a double. -/
def plainChars (x : Double) : List Char :=
  if x.mantissa = 0 then x.signChars ++ ['0']
  else
    let (n, e) := x.shortest
    let ds := digits n
    let whole := (ds.length : Int) + e
    x.signChars ++ if e ≥ 0 then padded ds whole else pointed ds whole

/-- Digits with a point behind the first and an exponent of ten. -/
def scientific (ds : List Char) (exponent : Int) : List Char :=
  let point := if ds.length = 1 then ds else ds.take 1 ++ '.' :: ds.drop 1
  point ++ 'e' :: (if exponent < 0 then '-' else '+') :: digits exponent.natAbs

/-- The compact text of a double. -/
def compactChars (x : Double) : List Char :=
  if x.mantissa = 0 then x.signChars ++ ['0', '.', '0']
  else
    let (n, e) := x.shortest
    let ds := digits n
    let whole := (ds.length : Int) + e
    x.signChars ++
      if e ≥ 0 ∧ whole ≤ 16 then padded ds whole ++ ['.', '0']
      else if -5 < whole ∧ whole ≤ 16 then pointed ds whole
      else scientific ds (whole - 1)

end Loyalty.Double
