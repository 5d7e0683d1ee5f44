import Loyalty.Order.Number
import Mathlib.Algebra.Ring.Nat
import Mathlib.Data.String.Basic
import Mathlib.Tactic.SplitIfs

/-!
# Which texts are order numbers

A text is read as an order number if, without the blanks around it, it is one to 64 ASCII digits
whose Luhn sum is a multiple of ten (`Valid`), and is refused for the first of the reasons against
it otherwise (`Faulty`, `read_cases`).

The Luhn sum is stated by the places of the digits (`luhn`), while it is computed along the digits,
with a flag that changes from one to the next (`checksumFrom_eq`).
-/

namespace Loyalty.OrderNumber

open Loyalty.Text

variable {cs : List Char} {number : String}

/-- What a digit counts at a place from the right, the last one being at place zero. -/
def countAt (place d : Nat) : Nat := if place % 2 = 1 then doubled d else d

/-- The Luhn sum of some digits: from the right, every second one counts double. -/
def luhn (ds : List Nat) : Nat := (ds.reverse.mapIdx countAt).sum

/-- An ASCII digit. -/
def IsDigit (c : Char) : Prop := '0' ≤ c ∧ c ≤ '9'

/-- One to 64 digits, of a Luhn sum that is a multiple of ten. -/
structure Valid (number : String) : Prop where
  digits : ∀ c ∈ number.toList, IsDigit c
  nonempty : number ≠ ""
  short : number.length ≤ 64
  luhn : 10 ∣ luhn (number.toList.map fun c => c.toNat - 48)

/-! ## The checksum -/

/-- The flag is the parity of the places that are left out on the right. -/
theorem checksumFrom_eq (double : Bool) (ds : List Nat) :
    checksumFrom double ds = (ds.mapIdx fun i => countAt (i + double.toNat)).sum := by
  induction ds generalizing double with
  | nil => rfl
  | cons d ds ih =>
    rw [checksumFrom, ih, List.mapIdx_cons, List.sum_cons]
    congr 1
    · cases double <;> simp [countAt]
    · -- One place further, a flag that was set makes for two places, which do not count.
      refine congrArg (fun f => (ds.mapIdx f).sum) (funext fun i => funext fun e => ?_)
      cases double
      · simp
      · have hparity : (i + 1 + true.toNat) % 2 = (i + (!true).toNat) % 2 := by
          simp only [Bool.toNat_true, Bool.not_true, Bool.toNat_false]
          omega
        rw [countAt, countAt, hparity]

theorem checksumFrom_reverse (ds : List Nat) : checksumFrom false ds.reverse = luhn ds := by
  rw [checksumFrom_eq, luhn]
  rfl

theorem digitValues?_of_digits (h : ∀ c ∈ cs, IsDigit c) :
    digitValues? cs = some (cs.map fun c => c.toNat - 48) := by
  induction cs with
  | nil => rfl
  | cons c cs ih =>
    obtain ⟨hc, hcs⟩ := List.forall_mem_cons.1 h
    have hvalue : digitValue? c = some (c.toNat - 48) := if_pos hc
    rw [digitValues?, hvalue, ih hcs]
    rfl

theorem forall_isDigit_of_isSome (h : (digitValues? cs).isSome) : ∀ c ∈ cs, IsDigit c := by
  induction cs with
  | nil => simp
  | cons c cs ih =>
    rw [digitValues?, digitValue?] at h
    split_ifs at h with hc
    · refine List.forall_mem_cons.2 ⟨hc, ih ?_⟩
      cases hcs : digitValues? cs with
      | none => simp [hcs] at h
      | some ds => rfl
    · cases h

theorem checks_iff :
    checks cs = true ↔
      cs ≠ [] ∧ (∀ c ∈ cs, IsDigit c) ∧ 10 ∣ luhn (cs.map fun c => c.toNat - 48) := by
  rw [checks, checksum?]
  by_cases hdigits : ∀ c ∈ cs, IsDigit c
  · rw [digitValues?_of_digits hdigits, Option.map_some, checksumFrom_reverse, and_iff_right hdigits]
    simp [Nat.dvd_iff_mod_eq_zero]
  · have hnone : digitValues? cs = none := by
      rw [← Option.not_isSome_iff_eq_none]
      exact hdigits ∘ forall_isDigit_of_isSome
    simp [hnone, hdigits]

/-! ## Reading -/

theorem IsDigit.utf8Size {c : Char} (h : IsDigit c) : c.utf8Size = 1 := by
  have hascii : '9'.val ≤ 127 := by decide
  exact Char.utf8Size_eq_one_iff.2 (UInt32.le_trans (Char.le_def.1 h.2) hascii)

/-- A text of digits has as many bytes as characters. -/
theorem utf8ByteSize_of_digits (h : ∀ c ∈ number.toList, IsDigit c) :
    number.utf8ByteSize = number.length := by
  rw [← String.utf8Len_toList, ← String.length_toList]
  generalize number.toList = cs at h
  induction cs with
  | nil => rfl
  | cons c cs ih =>
    obtain ⟨hc, hcs⟩ := List.forall_mem_cons.1 h
    rw [String.utf8Len_cons, ih hcs, hc.utf8Size, List.length_cons]

theorem valid_iff :
    Valid number ↔ number ≠ "" ∧ number.utf8ByteSize ≤ maxBytes ∧ checks number.toList = true := by
  have hempty : number.toList ≠ [] ↔ number ≠ "" := String.toList_eq_nil_iff.not
  constructor
  · intro h
    rw [utf8ByteSize_of_digits h.digits, checks_iff, hempty]
    exact ⟨h.nonempty, h.short, h.nonempty, h.digits, h.luhn⟩
  · rintro ⟨hnonempty, hshort, hchecks⟩
    obtain ⟨-, hdigits, hluhn⟩ := checks_iff.1 hchecks
    rw [utf8ByteSize_of_digits hdigits] at hshort
    exact ⟨hdigits, hnonempty, hshort, hluhn⟩

instance (number : String) : Decidable (Valid number) := decidable_of_iff _ valid_iff.symm

example : Valid "79927398713" ∧ ¬ Valid "79927398710" := by decide

/-- What is first found wrong with a text that is no order number. -/
inductive Faulty (number : String) : Invalid → Prop
  | empty (empty : number = "") : Faulty number .numberEmpty
  | long (nonempty : number ≠ "") (long : maxBytes < number.utf8ByteSize) :
    Faulty number (.numberLong number.utf8ByteSize)
  | unchecked (nonempty : number ≠ "") (short : number.utf8ByteSize ≤ maxBytes)
      (invalid : ¬ Valid number) : Faulty number (.numberUnchecked number)

theorem Faulty.not_valid {cause : Invalid} (h : Faulty number cause) : ¬ Valid number := by
  cases h with
  | empty hempty => exact fun hvalid => hvalid.nonempty hempty
  | long _ hlong => exact fun hvalid => absurd (valid_iff.1 hvalid).2.1 (Nat.not_le.2 hlong)
  | unchecked _ _ hinvalid => exact hinvalid

/-- A text is read as what is left without the blanks around it, if that is an order number. -/
theorem read_cases (raw : String) :
    (Valid (trim raw) ∧ read raw = .ok (trim raw)) ∨
      ∃ cause, Faulty (trim raw) cause ∧ read raw = .error cause := by
  simp only [read, String.isEmpty_iff]
  generalize trim raw = number
  split_ifs with hempty hlong hchecks
  · exact .inr ⟨_, .empty hempty, rfl⟩
  · exact .inr ⟨_, .long hempty hlong, rfl⟩
  · exact .inl ⟨valid_iff.2 ⟨hempty, Nat.le_of_not_lt hlong, hchecks⟩, rfl⟩
  · refine .inr ⟨_, .unchecked hempty (Nat.le_of_not_lt hlong) fun hvalid => ?_, rfl⟩
    exact hchecks (valid_iff.1 hvalid).2.2

end Loyalty.OrderNumber
