/-!
# Whole numbers in decimal digits

`digits` writes a natural number without leading zeros, `natural?` and
`integer?` read one back. Reading takes ASCII digits only, with any number of
leading zeros, and one sign where a sign is allowed; bounds are the caller's.
-/

namespace Loyalty.Text

/-- The ASCII digit of a number below ten. -/
def digitChar (n : Nat) : Char := Char.ofNat (48 + n)

/-- The value of an ASCII digit. -/
def digitValue? (c : Char) : Option Nat :=
  if '0' ≤ c ∧ c ≤ '9' then some (c.toNat - 48) else none

/-- The decimal digits of a number, without leading zeros. -/
def digits (n : Nat) : List Char :=
  if n < 10 then [digitChar n] else digits (n / 10) ++ [digitChar (n % 10)]
termination_by n

/-- The digits of a number with zeros in front up to the given width. -/
def paddedDigits (width n : Nat) : List Char :=
  let ds := digits n
  List.replicate (width - ds.length) '0' ++ ds

/-- The decimal text of an integer: a minus sign and digits. -/
def integerChars (n : Int) : List Char :=
  if n < 0 then '-' :: digits n.natAbs else digits n.natAbs

/-- The value of a list of ASCII digits read after `acc`; nothing if some
    character is none. -/
def digitsValueFrom (acc : Nat) : List Char → Option Nat
  | [] => some acc
  | c :: cs => (digitValue? c).bind fun d => digitsValueFrom (10 * acc + d) cs

/-- The value of one or more ASCII digits. -/
def digitsValue? (cs : List Char) : Option Nat :=
  if cs.isEmpty then none else digitsValueFrom 0 cs

/-- A natural number of at most `top`, perhaps behind a plus sign. -/
def natural? (top : Nat) (cs : List Char) : Option Nat :=
  let ds := match cs with
    | '+' :: rest => rest
    | rest => rest
  (digitsValue? ds).filter (· ≤ top)

/-- An integer between `low` and `high`, perhaps behind a sign. -/
def integer? (low high : Int) (cs : List Char) : Option Int :=
  let value := match cs with
    | '-' :: rest => (digitsValue? rest).map fun n => -(n : Int)
    | '+' :: rest => (digitsValue? rest).map fun n => (n : Int)
    | rest => (digitsValue? rest).map fun n => (n : Int)
  value.filter fun n => low ≤ n ∧ n ≤ high

/-- The largest integer of 64 bits with a sign. -/
def int64Max : Int := 9223372036854775807

/-- The least integer of 64 bits with a sign. -/
def int64Min : Int := -9223372036854775808

/-- The largest number of 64 bits without a sign. -/
def word64Max : Nat := 18446744073709551615

/-- The largest number of 32 bits without a sign. -/
def word32Max : Nat := 4294967295

/-- An integer of 64 bits with a sign. -/
def int64? (cs : List Char) : Option Int := integer? int64Min int64Max cs

end Loyalty.Text
