import Loyalty.Http.Message
import Loyalty.Proofs.Text.Read
import Loyalty.Proofs.Text.Written

/-!
# What stands in a header

The value of a header is a text if its bytes are tabs and printable characters of ASCII, and then
it is the text whose bytes these are (`printable?_eq_some_iff`). Of the blanks, only the space and
the tab are among these characters (`blank_of_printable`).
-/

namespace Loyalty.Http.Request

open Loyalty.Text

variable {value : List UInt8} {text : String} {b : UInt8} {c : Char}

/-- The character is a tab or a printable one of ASCII. -/
def Printable (c : Char) : Prop := c.toNat = 9 ∨ 32 ≤ c.toNat ∧ c.toNat < 127

theorem Printable.lt (h : Printable c) : c.toNat < 128 := by
  unfold Printable at h
  omega

theorem blank_of_printable (h : Printable c) (hblank : isBlank c) : c = ' ' ∨ c = '\t' := by
  have hcodes : ∀ n < 128, n = 9 ∨ 32 ≤ n ∧ n < 127 → blankCodes.contains n → n = 32 ∨ n = 9 := by
    decide
  exact (hcodes c.toNat h.lt h hblank).imp Char.toNat_inj.1 Char.toNat_inj.1

theorem toNat_ofNat_byte (b : UInt8) : (Char.ofNat b.toNat).toNat = b.toNat :=
  toNat_ofNat (Nat.lt_trans b.toNat_lt (by decide))

theorem printable_ofNat_iff :
    ((0x20 ≤ b && b < 0x7F) || b = 0x09) = true ↔ Printable (Char.ofNat b.toNat) := by
  have htab : b = 9 ↔ b.toNat = 9 := ⟨fun h => h ▸ rfl, fun h => UInt8.toNat_inj.1 h⟩
  rw [Printable, toNat_ofNat_byte]
  simp only [Bool.or_eq_true, Bool.and_eq_true, decide_eq_true_eq, UInt8.le_iff_toNat_le,
    UInt8.lt_iff_toNat_lt, htab]
  exact Or.comm

/-- A text of such characters is what is read from its bytes. -/
theorem printable?_of_printable (h : ∀ c ∈ text.toList, Printable c) :
    printable? (bytes text) = some text := by
  have hbytes : bytes text = text.toList.map fun c => UInt8.ofNat c.toNat := by
    have hofList := bytes_ofList fun c hc => (h c hc).lt
    rwa [String.ofList_toList] at hofList
  have hback {c : Char} (hc : c ∈ text.toList) :
      Char.ofNat (UInt8.ofNat c.toNat).toNat = c := by
    have hsmall : c.toNat < UInt8.size := Nat.lt_trans (h c hc).lt (by decide)
    rw [UInt8.toNat_ofNat_of_lt' hsmall, Char.ofNat_toNat]
  have hall : ∀ b ∈ bytes text, ((0x20 ≤ b && b < 0x7F) || b = 0x09) = true := by
    rw [hbytes, List.forall_mem_map]
    intro c hc
    rw [printable_ofNat_iff, hback hc]
    exact h c hc
  have hchars : (bytes text).map (fun b => Char.ofNat b.toNat) = text.toList := by
    rw [hbytes, List.map_map]
    exact (List.map_congr_left fun c hc => hback hc).trans (List.map_id _)
  rw [printable?, if_pos (List.all_eq_true.2 hall), hchars, String.ofList_toList]

theorem printable?_eq_some_iff :
    printable? value = some text ↔ value = bytes text ∧ ∀ c ∈ text.toList, Printable c := by
  refine ⟨fun h => ?_, fun ⟨hvalue, h⟩ => hvalue ▸ printable?_of_printable h⟩
  rw [printable?] at h
  split_ifs at h with hall
  cases h
  have hprintable : ∀ c ∈ value.map fun b => Char.ofNat b.toNat, Printable c :=
    List.forall_mem_map.2 fun b hb => printable_ofNat_iff.1 (List.all_eq_true.1 hall b hb)
  rw [String.toList_ofList]
  refine ⟨?_, hprintable⟩
  rw [bytes_ofList fun c hc => (hprintable c hc).lt, List.map_map]
  refine ((List.map_congr_left fun b _ => ?_).trans (List.map_id _)).symm
  rw [Function.comp_apply, toNat_ofNat_byte, UInt8.ofNat_toNat, id]

end Loyalty.Http.Request
