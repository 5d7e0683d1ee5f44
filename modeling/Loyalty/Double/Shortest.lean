import Loyalty.Double.Basic

/-!
# The shortest decimal of a double

Of all decimals that a double is the nearest double to, `shortest` is one with
the fewest digits, and of those the nearest. It looks at ever finer decimal
grids: if some point of a grid lies in the interval of numbers that round to
the double, then so does one of the two points around the double itself.
-/

namespace Loyalty.Double

/-- The numbers that round to `x` lie between the first and the third of these
    times `2 ^ (exponent - 2)`; the second is `x` itself. -/
def interval (x : Double) : Nat × Nat × Nat :=
  let low := if x.mantissa = twoTo 52 ∧ x.exponent > leastExponent then 1 else 2
  (4 * x.mantissa - low, 4 * x.mantissa, 4 * x.mantissa + 2)

/-- The point of the grid of `10 ^ place` in the interval of `x` that is
    nearest to `x`, if there is one; the even one of two. -/
def gridPoint? (x : Double) (place : Int) : Option Nat :=
  let (low, mid, high) := x.interval
  let (up, down) := power (x.exponent - 2)
  -- `c` on the grid is `c · unit`, the interval is in steps of `scale`
  let unit := tenTo place.toNat * down
  let scale := tenTo (-place).toNat * up
  let inside (c : Nat) : Bool :=
    if x.mantissa % 2 = 0 then low * scale ≤ c * unit && c * unit ≤ high * scale
    else low * scale < c * unit && c * unit < high * scale
  let below := mid * scale / unit
  let above := below + 1
  let nearest := Rounding.halfEven (mid * scale) unit
  if inside nearest && nearest != 0 then some nearest
  else if inside below && below != 0 then some below
  else if inside above then some above
  else none

/-- Searches grids from `10 ^ place` downwards. -/
def shortestFrom (x : Double) : Nat → Int → Nat × Int
  | 0, place => (0, place)
  | fuel + 1, place =>
    match x.gridPoint? place with
    | some c => (c, place)
    | none => shortestFrom x fuel (place - 1)

/-- The digits and the decimal exponent of the shortest decimal of a double
    other than zero. -/
def shortest (x : Double) : Nat × Int :=
  x.shortestFrom 25 (((x.mantissa.log2 : Int) + x.exponent + 1) * 30103 / 100000 + 2)

end Loyalty.Double
