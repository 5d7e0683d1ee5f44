import Loyalty.Text.Base64
import Loyalty.Text.Blank
import Loyalty.Text.Hex
import Loyalty.Text.Number
import Loyalty.Text.Split
import Loyalty.Text.Utf8
import Mathlib.Data.List.Basic
import Mathlib.Tactic.SplitIfs

/-!
# What is written is read back

The small texts that others are made of, each with its reader.

* Pieces: `splitFirst_append`, `splitLast_append` and `splitAll_append` find a separator
  that the piece before it, or after it, does not have.
* Numbers: `digitsValue?_digits`, `natural?_digits` and `integer?_integerChars`.
* Bytes: `ofHex?_toHex`, `Base64.decode?_encode`, `bytes_inj` for those of a text, and
  `bytes_ofList` for characters of one byte.
-/

namespace Loyalty.Text

/-! ## Pieces -/

section Pieces

variable {α : Type} [DecidableEq α] {sep : α}

theorem splitFirst_append {before : List α} (h : sep ∉ before) (after : List α) :
    splitFirst sep (before ++ sep :: after) = some (before, after) := by
  induction before with
  | nil => simp [splitFirst]
  | cons c cs ih =>
    rw [List.mem_cons, not_or] at h
    rw [List.cons_append, splitFirst, if_neg (Ne.symm h.1), ih h.2, Option.map_some]

theorem splitLast_of_not_mem {cs : List α} (h : sep ∉ cs) : splitLast sep cs = none := by
  induction cs with
  | nil => rfl
  | cons c cs ih =>
    rw [List.mem_cons, not_or] at h
    simp only [splitLast, ih h.2, if_neg (Ne.symm h.1)]

theorem splitLast_append (before : List α) {after : List α} (h : sep ∉ after) :
    splitLast sep (before ++ sep :: after) = some (before, after) := by
  induction before with
  | nil => simp only [List.nil_append, splitLast, splitLast_of_not_mem h, if_true]
  | cons c cs ih => simp only [List.cons_append, splitLast, ih]

theorem splitAll_of_not_mem {cs : List α} (h : sep ∉ cs) : splitAll sep cs = [cs] := by
  induction cs with
  | nil => rfl
  | cons c cs ih =>
    rw [List.mem_cons, not_or] at h
    simp only [splitAll, ih h.2, if_neg (Ne.symm h.1)]

theorem splitAll_append {before : List α} (h : sep ∉ before) (after : List α) :
    splitAll sep (before ++ sep :: after) = before :: splitAll sep after := by
  -- There is always a first piece.
  have hpiece (cs : List α) : splitAll sep cs ≠ [] := by
    cases cs with
    | nil => exact List.cons_ne_nil _ _
    | cons c cs =>
      rw [splitAll]
      split
      · exact List.cons_ne_nil _ _
      · split_ifs <;> exact List.cons_ne_nil _ _
  obtain ⟨piece, rest, hafter⟩ := List.exists_cons_of_ne_nil (hpiece after)
  induction before with
  | nil => simp only [List.nil_append, splitAll, hafter, if_true]
  | cons c cs ih =>
    rw [List.mem_cons, not_or] at h
    simp only [List.cons_append, splitAll, ih h.2, if_neg (Ne.symm h.1)]

@[simp] theorem dropStart?_append (start rest : List α) :
    dropStart? start (start ++ rest) = some rest := by
  induction start with
  | nil => rfl
  | cons s start ih => simpa only [List.cons_append, dropStart?, if_true] using ih

end Pieces

/-- A text without blanks has none at its ends. -/
theorem trimChars_of_no_blank {cs : List Char} (h : ∀ c ∈ cs, isBlank c = false) :
    trimChars cs = cs := by
  have hkeep (cs : List Char) (h : ∀ c ∈ cs, isBlank c = false) : cs.dropWhile isBlank = cs := by
    cases cs with
    | nil => rfl
    | cons c cs => rw [List.dropWhile_cons_of_neg (by simp [h c List.mem_cons_self])]
  rw [trimChars, trimStart, hkeep cs h, trimEnd,
    hkeep cs.reverse fun c hc => h c (List.mem_reverse.1 hc), List.reverse_reverse]

/-- A blank at the beginning is taken away. -/
theorem trimChars_cons {c : Char} (h : isBlank c = true) (cs : List Char) :
    trimChars (c :: cs) = trimChars cs := by
  rw [trimChars, trimStart, List.dropWhile_cons_of_pos h, trimChars, trimStart]

/-! ## Numbers -/

/-- The digits as the characters that they are. -/
theorem digitChar_mem {n : Nat} (h : n < 10) : digitChar n ∈ "0123456789".toList := by
  decide +revert

theorem digitValue?_digitChar {n : Nat} (h : n < 10) : digitValue? (digitChar n) = some n := by
  decide +revert

theorem mem_digits {n : Nat} {c : Char} (h : c ∈ digits n) : c ∈ "0123456789".toList := by
  induction n using digits.induct with
  | case1 n hn =>
    rw [digits, if_pos hn, List.mem_singleton] at h
    exact h ▸ digitChar_mem hn
  | case2 n hn ih =>
    rw [digits, if_neg hn, List.mem_append, List.mem_singleton] at h
    exact h.elim ih fun h => h ▸ digitChar_mem (Nat.mod_lt n (by decide))

theorem digits_ne_nil (n : Nat) : digits n ≠ [] := by
  rw [digits]
  split_ifs <;> simp

theorem digitsValueFrom_append (acc : Nat) (cs ds : List Char) :
    digitsValueFrom acc (cs ++ ds) =
      (digitsValueFrom acc cs).bind fun n => digitsValueFrom n ds := by
  induction cs generalizing acc with
  | nil => rfl
  | cons c cs ih =>
    rw [List.cons_append, digitsValueFrom, digitsValueFrom]
    cases digitValue? c with
    | none => rfl
    | some d => exact ih (10 * acc + d)

theorem digitsValue?_digits (n : Nat) : digitsValue? (digits n) = some n := by
  -- The last digit is written last, and read last.
  rw [digitsValue?, if_neg (by simp [digits_ne_nil])]
  induction n using digits.induct with
  | case1 n hn =>
    rw [digits, if_pos hn, digitsValueFrom, digitValue?_digitChar hn]
    simp [digitsValueFrom]
  | case2 n hn ih =>
    rw [digits, if_neg hn, digitsValueFrom_append, ih, Option.bind_some, digitsValueFrom,
      digitValue?_digitChar (Nat.mod_lt n (by decide)), Option.bind_some, digitsValueFrom,
      Nat.div_add_mod]

/-- A number begins with a digit, and so with no sign. -/
theorem mem_of_digits_eq_cons {n : Nat} {c : Char} {rest : List Char} (h : digits n = c :: rest) :
    c ∈ "0123456789".toList := mem_digits (h ▸ List.mem_cons_self)

theorem natural?_digits {top n : Nat} (h : n ≤ top) : natural? top (digits n) = some n := by
  unfold natural?
  split
  next hplus => exact absurd (mem_of_digits_eq_cons hplus) (by decide)
  next =>
    dsimp only
    rw [digitsValue?_digits]
    simpa using h

theorem mem_integerChars {n : Int} {c : Char} (h : c ∈ integerChars n) :
    c ∈ "-0123456789".toList := by
  have hdigit {c : Char} (h : c ∈ digits n.natAbs) : c ∈ "-0123456789".toList :=
    List.mem_cons_of_mem '-' (mem_digits h)
  rw [integerChars] at h
  split_ifs at h
  · exact (List.mem_cons.1 h).elim (fun h => h ▸ List.mem_cons_self) hdigit
  · exact hdigit h

theorem integer?_integerChars {low high n : Int} (hlow : low ≤ n) (hhigh : n ≤ high) :
    integer? low high (integerChars n) = some n := by
  have hfilter : (some n).filter (fun n => low ≤ n ∧ n ≤ high) = some n :=
    Option.filter_eq_some_iff.2 ⟨rfl, by simp only [hlow, hhigh, and_self, decide_true]⟩
  rw [integerChars]
  split_ifs with hneg
  · have habs : -(n.natAbs : Int) = n := by omega
    simp only [integer?, digitsValue?_digits]
    change (some (-(n.natAbs : Int))).filter _ = some n
    rw [habs, hfilter]
  · have habs : (n.natAbs : Int) = n := by omega
    unfold integer?
    split
    next hminus => exact absurd (mem_of_digits_eq_cons hminus) (by decide)
    next hplus => exact absurd (mem_of_digits_eq_cons hplus) (by decide)
    next =>
      rw [digitsValue?_digits]
      change (some (n.natAbs : Int)).filter _ = some n
      rw [habs, hfilter]

/-! ## Bytes -/

theorem hexDigit_mem {n : Nat} (h : n < 16) : hexDigit n ∈ "0123456789abcdef".toList := by
  decide +revert

theorem hexValue?_hexDigit {n : Nat} (h : n < 16) : hexValue? (hexDigit n) = some n := by
  decide +revert

/-- A byte has two hexadecimal digits. -/
theorem byte_halves (b : UInt8) : b.toNat / 16 < 16 ∧ b.toNat % 16 < 16 := by
  have := b.toNat_lt
  omega

theorem mem_toHex {bs : List UInt8} {c : Char} (h : c ∈ toHex bs) :
    c ∈ "0123456789abcdef".toList := by
  rw [toHex, List.mem_flatMap] at h
  obtain ⟨b, -, hc⟩ := h
  rw [List.mem_pair] at hc
  rcases hc with rfl | rfl
  · exact hexDigit_mem (byte_halves b).1
  · exact hexDigit_mem (byte_halves b).2

theorem ofHex?_toHex (bs : List UInt8) : ofHex? (toHex bs) = some bs := by
  induction bs with
  | nil => rfl
  | cons b bs ih =>
    rw [toHex] at ih
    rw [toHex, List.flatMap_cons, List.cons_append, List.cons_append, List.nil_append, ofHex?,
      hexValue?_hexDigit (byte_halves b).1, hexValue?_hexDigit (byte_halves b).2, ih]
    change some (UInt8.ofNat (16 * (b.toNat / 16) + b.toNat % 16) :: bs) = some (b :: bs)
    rw [Nat.div_add_mod, UInt8.ofNat_toNat]

theorem toList_toByteArray (bs : List UInt8) : bs.toByteArray.toList = bs := by
  -- The loop has read some bytes and reads those from `i` on.
  have hloop (i : Nat) (read : List UInt8) :
      ByteArray.toList.loop bs.toByteArray i read = read.reverse ++ bs.drop i := by
    induction i, read using ByteArray.toList.loop.induct bs.toByteArray with
    | case1 i read hi ih =>
      have hlength : i < bs.length := by simpa using hi
      rw [ByteArray.toList.loop, if_pos hi, ih, List.drop_eq_getElem_cons hlength]
      simp [ByteArray.get!, hlength]
    | case2 i read hi =>
      have hlength : bs.length ≤ i := by simpa using hi
      rw [ByteArray.toList.loop, if_neg hi, List.drop_eq_nil_of_le hlength, List.append_nil]
  exact hloop 0 []

/-- The code of a character that stands below the surrogates. -/
theorem toNat_ofNat {n : Nat} (h : n < 0xD800) : (Char.ofNat n).toNat = n := by
  rw [Char.ofNat, dif_pos (.inl h)]
  rfl

theorem bytes_eq_flatMap (text : String) :
    bytes text = text.toList.flatMap String.utf8EncodeChar := by
  have hofList (cs : List Char) : bytes (.ofList cs) = cs.flatMap String.utf8EncodeChar := by
    rw [bytes, String.toUTF8, String.toByteArray_ofList, List.utf8Encode, toList_toByteArray]
  rw [← hofList, String.ofList_toList]

theorem bytes_append (text rest : String) : bytes (text ++ rest) = bytes text ++ bytes rest := by
  simp only [bytes_eq_flatMap, String.toList_append, List.flatMap_append]

/-- Characters below 128 are one byte each. -/
theorem bytes_ofList {cs : List Char} (h : ∀ c ∈ cs, c.toNat < 128) :
    bytes (.ofList cs) = cs.map fun c => UInt8.ofNat c.toNat := by
  have hone {c : Char} (hc : c ∈ cs) : String.utf8EncodeChar c = [UInt8.ofNat c.toNat] :=
    if_pos (Nat.le_of_lt_succ (h c hc))
  rw [bytes_eq_flatMap, String.toList_ofList, List.map_eq_flatMap]
  exact List.flatMap_congr fun c hc => hone hc

theorem toByteArray_bytes (text : String) : (bytes text).toByteArray = text.toByteArray := by
  have hofList := String.toByteArray_ofList (l := text.toList)
  rw [String.ofList_toList] at hofList
  rw [bytes_eq_flatMap, hofList]
  rfl

/-- The bytes of a text tell the text. -/
theorem bytes_inj {text other : String} : bytes text = bytes other ↔ text = other := by
  refine ⟨fun h => ?_, congrArg bytes⟩
  rw [← String.toByteArray_inj, ← toByteArray_bytes, ← toByteArray_bytes, h]

theorem length_bytes (text : String) : (bytes text).length = text.utf8ByteSize := by
  rw [← List.size_toByteArray, toByteArray_bytes]
  rfl

/-! ## Bytes in base 64 -/

namespace Base64

theorem digit_mem {n : Nat} (h : n < 64) :
    digit n ∈ "ABCDEFGHIJKLMNOPQRSTUVWXYZabcdefghijklmnopqrstuvwxyz0123456789+/".toList := by
  decide +revert

theorem value?_digit {n : Nat} (h : n < 64) : value? (digit n) = some n := by
  decide +revert

/-- The highest six bits of a byte and its lowest two, in front of others. -/
theorem ofNat_high (b : UInt8) {x : Nat} (hx : x < 16) :
    UInt8.ofNat (4 * (b.toNat / 4) + (b.toNat % 4 * 16 + x) / 16) = b := by
  have h : 4 * (b.toNat / 4) + (b.toNat % 4 * 16 + x) / 16 = b.toNat := by omega
  rw [h, UInt8.ofNat_toNat]

/-- The highest four bits of a byte, behind others, and its lowest four, in front of others. -/
theorem ofNat_middle (b : UInt8) (y : Nat) {x : Nat} (hx : x < 4) :
    UInt8.ofNat ((y * 16 + b.toNat / 16) % 16 * 16 + (b.toNat % 16 * 4 + x) / 4) = b := by
  have hb := b.toNat_lt
  have h : (y * 16 + b.toNat / 16) % 16 * 16 + (b.toNat % 16 * 4 + x) / 4 = b.toNat := by omega
  rw [h, UInt8.ofNat_toNat]

/-- The highest two bits of a byte, behind others, and its lowest six. -/
theorem ofNat_low (b : UInt8) (y : Nat) :
    UInt8.ofNat ((y * 4 + b.toNat / 64) % 4 * 64 + b.toNat % 64) = b := by
  have hb := b.toNat_lt
  have h : (y * 4 + b.toNat / 64) % 4 * 64 + b.toNat % 64 = b.toNat := by omega
  rw [h, UInt8.ofNat_toNat]

theorem decode?_encode (bs : List UInt8) : decode? (encode bs) = some bs := by
  induction bs using encode.induct with
  | case1 => rfl
  | case2 a =>
    have ha := a.toNat_lt
    have hp : a.toNat / 4 < 64 := by omega
    have hq : a.toNat % 4 * 16 < 64 := by omega
    rw [encode, decode?, value?_digit hp, value?_digit hq]
    change (if a.toNat % 4 * 16 % 16 = 0 then _ else none) = _
    rw [if_pos (Nat.mul_mod_left _ _)]
    exact congrArg (fun b => some [b]) (ofNat_high a (x := 0) (by decide))
  | case3 a b =>
    have ha := a.toNat_lt
    have hb := b.toNat_lt
    have hx : b.toNat / 16 < 16 := by omega
    have hp : a.toNat / 4 < 64 := by omega
    have hq : a.toNat % 4 * 16 + b.toNat / 16 < 64 := by omega
    have hr : b.toNat % 16 * 4 < 64 := by omega
    rw [encode, decode?, value?_digit hp, value?_digit hq, value?_digit hr]
    change (if b.toNat % 16 * 4 % 4 = 0 then _ else none) = _
    rw [if_pos (Nat.mul_mod_left _ _), ofNat_high a hx]
    exact congrArg (fun c => some [a, c]) (ofNat_middle b (a.toNat % 4) (x := 0) (by decide))
  | case4 a b c rest ih =>
    have ha := a.toNat_lt
    have hb := b.toNat_lt
    have hc := c.toNat_lt
    have hx : b.toNat / 16 < 16 := by omega
    have hy : c.toNat / 64 < 4 := by omega
    have hp : a.toNat / 4 < 64 := by omega
    have hq : a.toNat % 4 * 16 + b.toNat / 16 < 64 := by omega
    have hr : b.toNat % 16 * 4 + c.toNat / 64 < 64 := by omega
    have hs : c.toNat % 64 < 64 := by omega
    rw [encode, decode?, value?_digit hp, value?_digit hq, value?_digit hr, value?_digit hs, ih]
    change some (_ :: _ :: _ :: rest) = _
    rw [ofNat_high a hx, ofNat_middle b _ hy, ofNat_low c _]

theorem mem_encode {bs : List UInt8} {c : Char} (h : c ∈ encode bs) :
    c ∈ "ABCDEFGHIJKLMNOPQRSTUVWXYZabcdefghijklmnopqrstuvwxyz0123456789+/".toList := by
  induction bs using encode.induct with
  | case1 => cases h
  | case2 a =>
    have ha := a.toNat_lt
    simp only [encode, List.mem_cons, List.not_mem_nil, or_false] at h
    rcases h with rfl | rfl <;> exact digit_mem (by omega)
  | case3 a b =>
    have ha := a.toNat_lt
    have hb := b.toNat_lt
    simp only [encode, List.mem_cons, List.not_mem_nil, or_false] at h
    rcases h with rfl | rfl | rfl <;> exact digit_mem (by omega)
  | case4 a b d rest ih =>
    have ha := a.toNat_lt
    have hb := b.toNat_lt
    have hd := d.toNat_lt
    simp only [encode, List.mem_cons] at h
    rcases h with rfl | rfl | rfl | rfl | h
    · exact digit_mem (by omega)
    · exact digit_mem (by omega)
    · exact digit_mem (by omega)
    · exact digit_mem (by omega)
    · exact ih h

end Base64
end Loyalty.Text
