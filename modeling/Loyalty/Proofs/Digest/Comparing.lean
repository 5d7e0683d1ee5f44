import Loyalty.Digest.Hmac
import Mathlib.Logic.Basic

/-!
# Comparing digests

The differences of all bytes are gathered, and none is found exactly where the bytes are
the same (`sameBytes_iff`). Bytes that only one of the two has are not compared, but then
the lengths differ.
-/

namespace Loyalty.Digest

theorem foldl_differences_eq_zero {pairs : List (UInt8 × UInt8)} {diff : UInt8} :
    pairs.foldl (fun diff (x, y) => diff ||| (x ^^^ y)) diff = 0 ↔
      diff = 0 ∧ ∀ p ∈ pairs, p.1 = p.2 := by
  induction pairs generalizing diff with
  | nil => simp
  | cons p pairs ih =>
    rw [List.foldl_cons, ih, List.forall_mem_cons, UInt8.or_eq_zero_iff, UInt8.xor_eq_zero_iff,
      and_assoc]

/-- No difference is gathered exactly from the same bytes. -/
theorem sameBytes_iff {a b : List UInt8} : sameBytes a b = true ↔ a = b := by
  rw [sameBytes, Bool.and_eq_true, beq_iff_eq, beq_iff_eq, foldl_differences_eq_zero]
  constructor
  · rintro ⟨hlength, -, hpairs⟩
    refine List.ext_getElem hlength fun i ha hb => ?_
    have hi : i < (a.zip b).length := by rw [List.length_zip]; omega
    simpa using hpairs _ (List.getElem_mem hi)
  · rintro rfl
    refine ⟨rfl, rfl, fun p hp => ?_⟩
    obtain ⟨i, hi, rfl⟩ := List.getElem_of_mem hp
    rw [List.getElem_zip]

end Loyalty.Digest
