/-!
# Bytes in base 64

The standard alphabet without padding: three bytes make four digits, and one
or two bytes at the end make two or three. Reading refuses a lone digit at the
end, padding, any other character, and a last digit whose unused bits are not
zero, so that every text that is read is the one that is written for its
bytes.
-/

namespace Loyalty.Text.Base64

/-- The digit of a number below 64. -/
def digit (n : Nat) : Char :=
  if n < 26 then Char.ofNat (65 + n)
  else if n < 52 then Char.ofNat (71 + n)
  else if n < 62 then Char.ofNat (n - 4)
  else if n = 62 then '+'
  else '/'

/-- The value of a digit. -/
def value? (c : Char) : Option Nat :=
  if 'A' ≤ c ∧ c ≤ 'Z' then some (c.toNat - 65)
  else if 'a' ≤ c ∧ c ≤ 'z' then some (c.toNat - 71)
  else if '0' ≤ c ∧ c ≤ '9' then some (c.toNat + 4)
  else if c = '+' then some 62
  else if c = '/' then some 63
  else none

/-- The digits of some bytes. -/
def encode : List UInt8 → List Char
  | [] => []
  | [a] => [digit (a.toNat / 4), digit (a.toNat % 4 * 16)]
  | [a, b] =>
    [digit (a.toNat / 4), digit (a.toNat % 4 * 16 + b.toNat / 16), digit (b.toNat % 16 * 4)]
  | a :: b :: c :: rest =>
    digit (a.toNat / 4) :: digit (a.toNat % 4 * 16 + b.toNat / 16) ::
      digit (b.toNat % 16 * 4 + c.toNat / 64) :: digit (c.toNat % 64) :: encode rest

/-- The bytes that the digits stand for. -/
def decode? : List Char → Option (List UInt8)
  | [] => some []
  | [_] => none
  | [p, q] => do
    let i ← value? p
    let j ← value? q
    if j % 16 = 0 then some [UInt8.ofNat (4 * i + j / 16)] else none
  | [p, q, r] => do
    let i ← value? p
    let j ← value? q
    let k ← value? r
    if k % 4 = 0 then
      some [UInt8.ofNat (4 * i + j / 16), UInt8.ofNat (j % 16 * 16 + k / 4)]
    else none
  | p :: q :: r :: s :: rest => do
    let i ← value? p
    let j ← value? q
    let k ← value? r
    let l ← value? s
    let bytes ← decode? rest
    return UInt8.ofNat (4 * i + j / 16) :: UInt8.ofNat (j % 16 * 16 + k / 4) ::
      UInt8.ofNat (k % 4 * 64 + l) :: bytes

end Loyalty.Text.Base64
