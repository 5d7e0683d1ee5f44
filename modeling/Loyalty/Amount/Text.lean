import Loyalty.Amount.Basic
import Loyalty.Number.Rounding
import Loyalty.Text.Number
import Loyalty.Text.Split

/-!
# Amounts as text

An amount is written with all its decimal places, and with at least one digit
before the point. Reading takes a sign, digits with at most one point among
them, and underscores after the first digit. Where an amount has no room for a
digit behind the point, the digit rounds the number, half up, and behind it
only digits and underscores may stand, which are not looked at otherwise.
Digits before the point must all fit.

The place behind the last one that is kept is looked at in two ways. A *narrow*
coefficient, which fits 64 bits before its last digit, is rounded by whatever
stands there, and an underscore counts as a zero. A *wide* one passes over
underscores, and takes in the digit behind them if it has room for it; the
places are then counted modulo 29.

`parse?` also reads a number with a decimal exponent, as `1.5e3`.
-/

namespace Loyalty.Amount

open Loyalty.Text

/-- The text of an amount. -/
def chars (a : Amount) : List Char :=
  let ds := paddedDigits (a.scale + 1) a.coefficient
  let whole := ds.take (ds.length - a.scale)
  let point := if a.scale = 0 then [] else '.' :: ds.drop (ds.length - a.scale)
  (if a.negative then ['-'] else []) ++ whole ++ point

/-- The text of an amount. -/
def text (a : Amount) : String := .ofList a.chars

/-! ## Reading -/

/-- The amount of a sign, a coefficient and a number of decimal places. -/
def ofPlaces? (negative : Bool) (coefficient places : Nat) : Option Amount :=
  ofParts? negative coefficient (places % (finest + 1))

/-- The amount at which reading ends when there is no room for `next`: half
    up, one place fewer if the coefficient runs over. -/
def roundAt (negative : Bool) (coefficient places : Nat) (next : Char) (rest : List Char) :
    Option Amount := do
  let d ← if next = '_' then some 0 else digitValue? next
  if !rest.all fun c => c = '_' || (digitValue? c).isSome then none
  else if d < 5 then ofPlaces? negative coefficient places
  else if coefficient + 1 < limit then ofPlaces? negative (coefficient + 1) places
  else if places = 0 then none
  else ofPlaces? negative ((coefficient + 5) / 10) (places - 1)

/-- Whether a coefficient is too large for 64 bits, less some room, before its
    last digit. -/
def isWide (coefficient : Nat) : Bool := 1844674407370954906 ≤ coefficient / 10

/-- Reads digits, the point and underscores behind the sign. `point` says
    whether the point was read, `any` whether some digit was, and `passed`
    whether the last character was an underscore. -/
def readFrom (negative : Bool) (coefficient places : Nat) (point any passed : Bool) :
    List Char → Option Amount
  | [] => if any then ofPlaces? negative coefficient places else none
  | c :: cs =>
    let isFull := point && any && finest ≤ places && !(passed && isWide coefficient)
    if isFull && !(c = '_' && isWide coefficient) then
      roundAt negative coefficient places c cs
    else
      match digitValue? c with
      | some d =>
        let next := 10 * coefficient + d
        if next < limit then
          readFrom negative next (if point then places + 1 else 0) point true false cs
        else if point then roundAt negative coefficient places c cs
        else none
      | none =>
        if c = '.' && !point then readFrom negative coefficient places true any false cs
        else if c = '_' && any then readFrom negative coefficient places point any true cs
        else none

/-- Reads an amount without an exponent. -/
def parsePlain? : List Char → Option Amount
  | '-' :: cs => readFrom true 0 0 false false false cs
  | '+' :: cs => readFrom false 0 0 false false false cs
  | cs => readFrom false 0 0 false false false cs

/-- `a · 10 ^ e`. A scale of at least `e` is lowered; otherwise the zeros go
    into the coefficient, which must have room for them. -/
def scaleUp? (a : Amount) (e : Nat) : Option Amount :=
  if e ≤ a.scale then ofParts? a.negative a.coefficient (a.scale - e)
  else if e > finest then none
  else ofParts? a.negative (a.coefficient * tenTo (e - a.scale)) 0

/-- `a · 10 ^ -e`, by a larger scale. Places that an amount has no room for are
    rounded away, half up, and the sign stays. -/
def scaleDown? (a : Amount) (e : Nat) : Option Amount :=
  if e > finest then none
  else
    let dropped := a.scale + e - finest
    ofSignedParts? a.negative (Rounding.halfUp a.coefficient (tenTo dropped))
      (a.scale + e - dropped)

/-- Reads an amount with an exponent behind the first `e`, in either case. -/
def parseScientific? (cs : List Char) : Option Amount :=
  let base := cs.takeWhile fun c => c != 'e' && c != 'E'
  match cs.drop base.length with
  | [] => none
  | _ :: exponent => do
    let a ← parsePlain? base
    match exponent with
    | '-' :: ds => (natural? word32Max ds).bind a.scaleDown?
    | ds => (natural? word32Max ds).bind a.scaleUp?

/-- Reads an amount. -/
def parse? (cs : List Char) : Option Amount := parsePlain? cs <|> parseScientific? cs

end Loyalty.Amount
