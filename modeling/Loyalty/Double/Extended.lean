import Loyalty.Double.Text

/-!
# Doubles with infinities

A double that is read from a text may also be one of the two infinities, or
NaN, which is no number. A decimal beyond the range of the finite doubles is
read as an infinity.
-/

namespace Loyalty

open Loyalty.Text

/-- A finite double, an infinity, or no number. -/
inductive ExtendedDouble
  | finite (x : Double)
  | infinite (negative : Bool)
  | nan
  deriving DecidableEq, Repr

namespace ExtendedDouble

/-- The double nearest to `± digits · 10 ^ exponent`. -/
def ofDecimal (negative : Bool) (digits : Nat) (exponent : Int) : ExtendedDouble :=
  match Double.ofDecimal? negative digits exponent with
  | some x => .finite x
  | none => .infinite negative

/-- The plain text. -/
def chars : ExtendedDouble → List Char
  | .finite x => x.plainChars
  | .infinite false => ['i', 'n', 'f']
  | .infinite true => ['-', 'i', 'n', 'f']
  | .nan => ['N', 'a', 'N']

/-- Whether it is zero, of either sign. -/
def isZero : ExtendedDouble → Bool
  | .finite x => x.mantissa = 0
  | _ => false

/-- The nearest natural number of at most `top`, a half away from zero; NaN is
    taken for zero. -/
def toNatUpTo (top : Nat) : ExtendedDouble → Nat
  | .finite x => if x.negative then 0 else min x.roundNat top
  | .infinite negative => if negative then 0 else top
  | .nan => 0

/-! ## Reading -/

/-- An exponent of ten behind its letter, up to the end of the text. -/
def exponent? (cs : List Char) : Option Int :=
  match cs with
  | '-' :: rest => (digitsValue? rest).map fun n => -(n : Int)
  | '+' :: rest => (digitsValue? rest).map fun n => (n : Int)
  | rest => (digitsValue? rest).map fun n => (n : Int)

/-- Whether a character is an ASCII digit. -/
def isDigit (c : Char) : Bool := (digitValue? c).isSome

/-- A number without its sign: digits, perhaps with a point before, among or
    behind them, and perhaps an exponent. -/
def magnitude? (negative : Bool) (cs : List Char) : Option ExtendedDouble := do
  let whole := cs.takeWhile isDigit
  let rest := cs.dropWhile isDigit
  let (places, rest) := match rest with
    | '.' :: behind => (behind.takeWhile isDigit, behind.dropWhile isDigit)
    | _ => ([], rest)
  let n ← digitsValue? (whole ++ places)
  let e ← match rest with
    | [] => some 0
    | 'e' :: rest => exponent? rest
    | 'E' :: rest => exponent? rest
    | _ => none
  return ofDecimal negative n (e - places.length)

/-- A number, an infinity or NaN without its sign. -/
def unsigned? (negative : Bool) (cs : List Char) : Option ExtendedDouble :=
  let name := String.ofList (cs.map Char.toLower)
  if name = "inf" ∨ name = "infinity" then some (.infinite negative)
  else if name = "nan" then some .nan
  else magnitude? negative cs

/-- The double that a text names, perhaps behind a sign. -/
def read? (cs : List Char) : Option ExtendedDouble :=
  match cs with
  | '-' :: rest => unsigned? true rest
  | '+' :: rest => unsigned? false rest
  | rest => unsigned? false rest

end ExtendedDouble
end Loyalty
