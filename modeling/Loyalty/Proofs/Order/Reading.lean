import Loyalty.Proofs.Order.Luhn

/-!
# What is read as an order number

Of any text, what is left without the blanks around it is read, if that is an order number
(`read_eq_ok_iff`). No digit is a blank, so that an order number is read as itself
(`read_of_valid`), and any digits that leave room for one more can be made an order number by
exactly one digit. `number_language` says all of this, and that the sum never needs more than 32
bits.
-/

namespace Loyalty.OrderNumber

open Loyalty.Text

variable {c : Char} {raw number : String}

theorem IsDigit.not_blank (h : IsDigit c) : isBlank c = false := by
  obtain ⟨hlow, hhigh⟩ := isDigit_iff.1 h
  exact isBlank_of_graphic (by omega) (by omega)

/-- A text has no more characters than bytes. -/
theorem length_le_utf8ByteSize (text : String) : text.length ≤ text.utf8ByteSize := by
  rw [← String.utf8Len_toList, ← String.length_toList]
  induction text.toList with
  | nil => exact Nat.le_refl 0
  | cons c cs ih =>
    have hpos := c.utf8Size_pos
    rw [String.utf8Len_cons, List.length_cons]
    omega

theorem read_eq_ok_iff : read raw = .ok number ↔ Valid number ∧ Trims raw.toList number.toList := by
  have htrim : trim raw = number ↔ Trims raw.toList number.toList := by
    rw [← trimChars_eq_iff, ← String.toList_inj, trim, String.toList_ofList]
  rw [← htrim]
  rcases read_cases raw with ⟨hvalid, hread⟩ | ⟨cause, hfaulty, hread⟩
  · rw [hread, Except.ok.injEq]
    exact ⟨fun h => ⟨h ▸ hvalid, h⟩, And.right⟩
  · rw [hread]
    refine ⟨nofun, ?_⟩
    rintro ⟨hvalid, rfl⟩
    exact absurd hvalid hfaulty.not_valid

/-- An order number has no blanks around it. -/
theorem read_of_valid (h : Valid number) : read number = .ok number := by
  have hblank {c : Char} (hc : c ∈ number.toList) : isBlank c = false := (h.digits c hc).not_blank
  refine read_eq_ok_iff.2 ⟨h, trims_self (fun c hc => ?_) (fun c hc => ?_)⟩
  · exact hblank (List.mem_of_mem_head? hc)
  · exact hblank (List.mem_of_mem_getLast? hc)

theorem read_push_iff {p : String} (hp : ∀ c ∈ p.toList, IsDigit c) (hlength : p.length ≤ 63)
    (d : Char) : IsDigit d ∧ read (p.push d) = .ok (p.push d) ↔
      IsDigit d ∧ checks (p.toList ++ [d]) = true := by
  refine and_congr_right fun hd => ?_
  have hdigits : ∀ c ∈ (p.push d).toList, IsDigit c := by
    rw [String.toList_push]
    exact List.forall_mem_append.2 ⟨hp, List.forall_mem_singleton.2 hd⟩
  have hshort : (p.push d).utf8ByteSize ≤ maxBytes := by
    rw [utf8ByteSize_of_digits hdigits, String.length_push, maxBytes]
    omega
  rw [← String.toList_push]
  constructor
  · intro h
    exact (valid_iff.1 (read_eq_ok_iff.1 h).1).2.2
  · intro h
    exact read_of_valid (valid_iff.2 ⟨String.push_ne_empty, hshort, h⟩)

/-- A text is read as a number exactly if this is an order number and stands in the text between
    blanks only, and what was read is read as itself. The sum over any digits at the end never
    needs more than 32 bits, in a text that is short enough to be summed. Behind any 63 digits or
    fewer there is exactly one digit with which they are an order number. -/
theorem number_language :
    (∀ raw number, read raw = .ok number ↔ Valid number ∧ Trims raw.toList number.toList) ∧
    (∀ raw number, read raw = .ok number → read number = .ok number) ∧
    (∀ raw back, (trim raw).utf8ByteSize ≤ maxBytes → back <:+ (trim raw).toList →
      ∀ sum, checksum? back = some sum → sum ≤ word32Max) ∧
    ∀ p : String, (∀ c ∈ p.toList, IsDigit c) → p.length ≤ 63 →
      ∃! d, IsDigit d ∧ read (p.push d) = .ok (p.push d) := by
  refine ⟨fun raw number => read_eq_ok_iff, fun raw number h => ?_, ?_, fun p hp hlength => ?_⟩
  · exact read_of_valid (read_eq_ok_iff.1 h).1
  · intro raw back hshort hback sum hsum
    have hle := checksum?_le hsum
    have hlength := hback.length_le
    have hbytes := length_le_utf8ByteSize (trim raw)
    rw [String.length_toList] at hlength
    rw [maxBytes] at hshort
    rw [word32Max]
    omega
  · simp only [read_push_iff hp hlength]
    exact exists_unique_last hp

/-- A number between blanks, one of them no ASCII character. Its last digit is the only one that
    can stand there. -/
theorem number_language_completed :
    read "\u2003 79927398713\n" = .ok "79927398713" ∧
      read "79927398713" = .ok "79927398713" ∧
      ∀ d, IsDigit d → d ≠ '3' → read ("7992739871".push d) ≠ .ok ("7992739871".push d) := by
  obtain ⟨hread, hagain, -, hlast⟩ := number_language
  have htrims : Trims "\u2003 79927398713\n".toList "79927398713".toList := by
    refine ⟨⟨['\u2003', ' '], ['\n'], rfl, ?_, List.forall_mem_singleton.2 rfl⟩, ?_, ?_⟩
    · exact List.forall_mem_cons.2 ⟨rfl, List.forall_mem_singleton.2 rfl⟩
    · rintro c ⟨⟩
      rfl
    · rintro c ⟨⟩
      rfl
  have hraw : read "\u2003 79927398713\n" = .ok "79927398713" := (hread _ _).2 ⟨by decide, htrims⟩
  have hself := hagain _ _ hraw
  have hall : "7992739871".toList.all (fun c => 48 ≤ c.toNat ∧ c.toNat ≤ 57) = true := by decide
  have hdigits : ∀ c ∈ "7992739871".toList, IsDigit c :=
    fun c hc => isDigit_iff.2 (of_decide_eq_true (List.all_eq_true.1 hall c hc))
  obtain ⟨e, -, hunique⟩ := hlast "7992739871" hdigits (by decide)
  have hthree : '3' = e := hunique '3' ⟨isDigit_iff.2 (by decide), hself⟩
  refine ⟨hraw, hself, fun d hd hne h => hne ?_⟩
  exact (hunique d ⟨hd, h⟩).trans hthree.symm

end Loyalty.OrderNumber
