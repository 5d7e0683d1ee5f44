import Loyalty.Number.Power
import Loyalty.Number.Rounding

/-!
# Numbers of double precision

A double is a sign, a mantissa below `2 ^ 53` and an exponent of two of at
least -1074. Its value is exact, and every operation is the exact one followed
by one rounding to the nearest double, the even mantissa of two. The range has
no upper end here: a double is *finite* if its exponent is at most 971.
-/

namespace Loyalty

/-- The number `± mantissa · 2 ^ exponent`. -/
structure Double where
  negative : Bool
  mantissa : Nat
  exponent : Int
  deriving DecidableEq, Repr, Inhabited

namespace Double

/-- The least exponent. -/
def leastExponent : Int := -1074

/-- `2 ^ e` as a fraction. -/
def power (e : Int) : Nat × Nat := (twoTo e.toNat, twoTo (-e).toNat)

/-- The magnitude of a double as a fraction. -/
def ratio (x : Double) : Nat × Nat :=
  let (up, down) := power x.exponent
  (x.mantissa * up, down)

/-- Whether a double is below `2 ^ 1024`. -/
def isFinite (x : Double) : Bool := x.mantissa = 0 || x.exponent ≤ 971

/-- The double nearest to `± n / d`. -/
def ofRatio (negative : Bool) (n d : Nat) : Double :=
  if n = 0 then ⟨negative, 0, leastExponent⟩
  else
    let guess : Int := (n.log2 : Int) - d.log2 - 52
    let (up, down) := power guess
    let e := if n * down < twoTo 52 * (d * up) then guess - 1 else guess
    let e := max e leastExponent
    let (up, down) := power e
    let m := Rounding.halfEven (n * down) (d * up)
    if m < twoTo 53 then ⟨negative, m, e⟩ else ⟨negative, m / 2, e + 1⟩

/-- The double nearest to a natural number. -/
def ofNat (n : Nat) : Double := ofRatio false n 1

/-- The double with the other sign. -/
def neg (x : Double) : Double := { x with negative := !x.negative }

/-- The sum of two doubles that are not negative. -/
def add (x y : Double) : Double :=
  let (a, b) := x.ratio
  let (c, d) := y.ratio
  ofRatio false (a * d + c * b) (b * d)

/-- The product of two doubles. -/
def mul (x y : Double) : Double :=
  let (a, b) := x.ratio
  let (c, d) := y.ratio
  ofRatio (x.negative != y.negative) (a * c) (b * d)

/-- The quotient of two doubles, the second of them not zero. -/
def div (x y : Double) : Double :=
  let (a, b) := x.ratio
  let (c, d) := y.ratio
  ofRatio (x.negative != y.negative) (a * d) (b * c)

/-- The magnitude of a double, rounded to a whole number, a half away from
    zero. -/
def roundNat (x : Double) : Nat :=
  let (n, d) := x.ratio
  Rounding.halfUp n d

/-- The nearest whole number, a half away from zero. -/
def round (x : Double) : Double := { ofNat x.roundNat with negative := x.negative }

/-- `r · a ^ n` by repeated squaring, each product rounded. -/
def powFrom (r a : Double) (n : Nat) : Double :=
  let r := if n % 2 = 1 then r.mul a else r
  if n < 2 then r else powFrom r (a.mul a) (n / 2)
termination_by n

/-- A double times a power of ten, if that is finite. The powers from `10 ^ -308` to
    `10 ^ 308` are one product or one quotient; below them, `10 ^ 308` is divided by
    first, as often as it takes. -/
def scale? (x : Double) (exponent : Int) : Option Double :=
  if exponent.natAbs ≤ 308 then
    let power := ofNat (tenTo exponent.natAbs)
    if 0 ≤ exponent then
      let product := x.mul power
      if product.isFinite then some product else none
    else some (x.div power)
  else if x.mantissa = 0 then some x
  else if 0 ≤ exponent then none
  else scale? (x.div (ofNat (tenTo 308))) (exponent + 308)
termination_by (-exponent).toNat

/-- The double nearest to `± digits · 10 ^ exponent`, if it is finite. -/
def ofDecimal? (negative : Bool) (digits : Nat) (exponent : Int) : Option Double :=
  let magnitude := ((digits.log2 * 30103 / 100000 : Nat) : Int) + exponent
  if digits = 0 then some ⟨negative, 0, leastExponent⟩
  else if magnitude > 310 then none
  else if magnitude < -400 then some ⟨negative, 0, leastExponent⟩
  else
    let x := ofRatio negative (digits * tenTo exponent.toNat) (tenTo (-exponent).toNat)
    if x.isFinite then some x else none

end Double
end Loyalty
