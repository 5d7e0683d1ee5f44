/-!
# Bytes as text

The UTF-8 bytes of a text, the text of bytes that are UTF-8, and the text of
any bytes, in which every stretch that is not UTF-8 becomes one replacement
character.
-/

namespace Loyalty.Text

/-- The UTF-8 bytes of a text. -/
def bytes (s : String) : List UInt8 := s.toUTF8.toList

/-- The text of bytes that are UTF-8. -/
def ofBytes? (bs : List UInt8) : Option String := String.fromUTF8? ⟨bs.toArray⟩

/-- The bytes that may follow a first byte of UTF-8: their number and the
    bounds of the first of them. Nothing for a byte that cannot stand first. -/
def sequenceBounds? (b : UInt8) : Option (Nat × UInt8 × UInt8) :=
  if b < 0x80 then some (0, 0x80, 0xBF)
  else if b < 0xC2 then none
  else if b < 0xE0 then some (1, 0x80, 0xBF)
  else if b = 0xE0 then some (2, 0xA0, 0xBF)
  else if b = 0xED then some (2, 0x80, 0x9F)
  else if b < 0xF0 then some (2, 0x80, 0xBF)
  else if b = 0xF0 then some (3, 0x90, 0xBF)
  else if b < 0xF4 then some (3, 0x80, 0xBF)
  else if b = 0xF4 then some (3, 0x80, 0x8F)
  else none

/-- The longest start of `bs` that could continue a sequence which still needs
    `needed` bytes, and whether the sequence is then complete. -/
def continuation (low high : UInt8) : Nat → List UInt8 → List UInt8 × Bool
  | 0, _ => ([], true)
  | _ + 1, [] => ([], false)
  | needed + 1, b :: bs =>
    if low ≤ b ∧ b ≤ high then
      let (more, complete) := continuation 0x80 0xBF needed bs
      (b :: more, complete)
    else ([], false)

/-- The code point of a complete sequence of UTF-8. -/
def codePoint : List UInt8 → Nat
  | [] => 0
  | [a] => a.toNat
  | [a, b] => a.toNat % 32 * 64 + b.toNat % 64
  | [a, b, c] => (a.toNat % 16 * 64 + b.toNat % 64) * 64 + c.toNat % 64
  | a :: b :: c :: d :: _ =>
    ((a.toNat % 8 * 64 + b.toNat % 64) * 64 + c.toNat % 64) * 64 + d.toNat % 64

/-- The characters of any bytes: each longest start of a sequence that breaks
    off, and each byte that starts none, becomes one replacement character. -/
def decodeLossy : Nat → List UInt8 → List Char
  | 0, _ => []
  | _ + 1, [] => []
  | fuel + 1, b :: bs =>
    match sequenceBounds? b with
    | none => '\uFFFD' :: decodeLossy fuel bs
    | some (needed, low, high) =>
      let (more, complete) := continuation low high needed bs
      let c := if complete then Char.ofNat (codePoint (b :: more)) else '\uFFFD'
      c :: decodeLossy fuel (bs.drop more.length)

/-- The text of any bytes, with replacement characters. -/
def ofBytesLossy (bs : List UInt8) : String := .ofList (decodeLossy bs.length bs)

end Loyalty.Text
