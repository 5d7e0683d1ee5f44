import Loyalty.Failure
import Loyalty.Text.Blank

/-!
# Order numbers

An order number is one to 64 ASCII digits whose checksum is a multiple of ten:
every second digit from the right, beginning with the second, is doubled, nine
is taken away from what is then above nine, and all are added. Blanks around a
number are dropped when it is read.
-/

namespace Loyalty

open Loyalty.Text

namespace OrderNumber

/-- The most bytes that an order number may have. -/
def maxBytes : Nat := 64

/-- What a digit adds to the checksum where digits count double. -/
def doubled (d : Nat) : Nat := if 2 * d > 9 then 2 * d - 9 else 2 * d

/-- The checksum of digits, the rightmost first; `double` says whether the
    first of them counts double. -/
def checksumFrom (double : Bool) : List Nat → Nat
  | [] => 0
  | d :: ds => (if double then doubled d else d) + checksumFrom (!double) ds

/-- The values of some ASCII digits; nothing if some character is none. -/
def digitValues? : List Char → Option (List Nat)
  | [] => some []
  | c :: cs => do
    let d ← digitValue? c
    let ds ← digitValues? cs
    return d :: ds

/-- The checksum of a list of ASCII digits. -/
def checksum? (cs : List Char) : Option Nat :=
  (digitValues? cs).map fun ds => checksumFrom false ds.reverse

/-- Whether some characters are digits with a good checksum. -/
def checks (cs : List Char) : Bool :=
  !cs.isEmpty && ((checksum? cs).map (· % 10 == 0)).getD false

/-- Reads an order number: the text without the blanks around it, if that is
    one. -/
def read (raw : String) : Except Invalid String :=
  let number := trim raw
  if number.isEmpty then .error .numberEmpty
  else if number.utf8ByteSize > maxBytes then .error (.numberLong number.utf8ByteSize)
  else if checks number.toList then .ok number
  else .error (.numberUnchecked number)

end OrderNumber
end Loyalty
