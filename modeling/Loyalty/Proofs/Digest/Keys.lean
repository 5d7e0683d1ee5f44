import Loyalty.Digest.Pbkdf2
import Loyalty.Proofs.Text.Written
import Mathlib.Data.Fintype.BigOperators
import Mathlib.Data.Fintype.Pigeonhole
import Mathlib.Data.List.OfFn

/-!
# Keys of slow digests

A key enters a slow digest as its block of 64 bytes and as nothing else. Of the keys that have
room in a block, two have the same one exactly if one of them is the other with zeros behind it
(`keyBlock_eq_iff`). Every other pair of them enters as two different blocks, but a digest has
only half as many bytes as a block, so that some of these pairs have one digest
(`exists_collision`).
-/

namespace Loyalty.Digest

variable {a b : List UInt8} {n : Nat}

/-! ## Blocks -/

/-- The first key is the second with zeros behind it. -/
def ZerosBehind (a b : List UInt8) : Prop := ∃ n, a = b ++ List.replicate n 0

theorem keyBlock_of_le (h : a.length ≤ 64) :
    keyBlock a = a ++ List.replicate (64 - a.length) 0 := by
  simp only [keyBlock, if_neg (Nat.not_lt.2 h)]

theorem length_keyBlock (key : List UInt8) : (keyBlock key).length = 64 := by
  have hshort : (if key.length > 64 then sha256 key else key).length ≤ 64 := by
    split_ifs with hlong
    · rw [length_sha256]
      decide
    · exact Nat.le_of_not_lt hlong
  simp only [keyBlock, List.length_append, List.length_replicate]
  exact Nat.add_sub_of_le hshort

theorem ZerosBehind.keyBlock_eq (h : ZerosBehind a b) (ha : a.length ≤ 64) :
    keyBlock a = keyBlock b := by
  obtain ⟨n, rfl⟩ := h
  rw [List.length_append, List.length_replicate] at ha
  rw [keyBlock_of_le (by simpa using ha), keyBlock_of_le (by omega), List.append_assoc,
    List.replicate_append_replicate, List.length_append, List.length_replicate,
    show n + (64 - (b.length + n)) = 64 - b.length by omega]

theorem keyBlock_eq_iff (ha : a.length ≤ 64) (hb : b.length ≤ 64) :
    keyBlock a = keyBlock b ↔ ZerosBehind a b ∨ ZerosBehind b a := by
  constructor
  · intro h
    rw [keyBlock_of_le ha, keyBlock_of_le hb] at h
    -- The shorter key is the beginning of the longer one, and what follows there are zeros.
    rcases List.append_eq_append_iff.1 h with ⟨rest, hrest, hzeros⟩ | ⟨rest, hrest, hzeros⟩
    · refine .inr ⟨rest.length, ?_⟩
      rw [hrest, (List.append_eq_replicate_iff.1 hzeros.symm).2.1]
      simp
    · refine .inl ⟨rest.length, ?_⟩
      rw [hrest, (List.append_eq_replicate_iff.1 hzeros.symm).2.1]
      simp
  · rintro (h | h)
    · exact h.keyBlock_eq ha
    · exact (h.keyBlock_eq hb).symm

/-! ## Digests -/

theorem pbkdf2_congr (h : keyBlock a = keyBlock b) (salt : List UInt8) (rounds : Nat) :
    pbkdf2 a salt rounds = pbkdf2 b salt rounds := by
  simp only [pbkdf2, h]

/-- At least one round is made. -/
theorem pbkdf2_max (key salt : List UInt8) (rounds : Nat) :
    pbkdf2 key salt (max rounds 1) = pbkdf2 key salt rounds := by
  simp only [pbkdf2, show max rounds 1 - 1 = rounds - 1 by omega]

theorem length_stretch (block : List UInt8) (rounds : Nat) (last : List UInt8) {total : List UInt8}
    (h : total.length = 32) : (stretch block rounds last total).length = 32 := by
  induction rounds generalizing last total with
  | zero => exact h
  | succ rounds ih =>
    refine ih _ ?_
    rw [xorBytes, List.length_zipWith, h, signBlock, length_sha256]
    rfl

theorem length_pbkdf2 (key salt : List UInt8) (rounds : Nat) :
    (pbkdf2 key salt rounds).length = 32 :=
  length_stretch _ _ _ (length_sha256 _)

/-- The bytes of a list of 32, by their places. -/
def places (bs : List UInt8) (i : Fin 32) : Fin 256 := (bs.getD i 0).toFin

theorem eq_of_places (ha : a.length = 32) (hb : b.length = 32) (h : places a = places b) : a = b := by
  refine List.ext_getElem (ha.trans hb.symm) fun i hi hi' => ?_
  have hplace := congrFun h ⟨i, ha ▸ hi⟩
  simpa [places, hi, hi', UInt8.toFin_inj] using hplace

/-- However texts of 64 characters of ASCII are digested to 32 bytes, two of them have one digest. -/
theorem exists_collision (digest : List Char → List UInt8) (hlength : ∀ cs, (digest cs).length = 32) :
    ∃ cs ds : List Char, cs ≠ ds ∧ cs.length = 64 ∧ ds.length = 64 ∧ (∀ c ∈ cs ++ ds, c.toNat < 128) ∧
      digest cs = digest ds := by
  let text (f : Fin 64 → Fin 128) : List Char := List.ofFn fun i => Char.ofNat (f i)
  have hcode (x : Fin 128) : (Char.ofNat x).toNat = x :=
    Text.toNat_ofNat (x.isLt.trans (by decide))
  have hcard : Fintype.card (Fin 32 → Fin 256) < Fintype.card (Fin 64 → Fin 128) := by
    simp only [Fintype.card_fun, Fintype.card_fin]
    decide
  obtain ⟨f, g, hne, heq⟩ :=
    Fintype.exists_ne_map_eq_of_card_lt (fun f => places (digest (text f))) hcard
  have hsmall (f : Fin 64 → Fin 128) : ∀ c ∈ text f, c.toNat < 128 := by
    rw [List.forall_mem_ofFn_iff]
    exact fun i => (hcode (f i)).trans_lt (f i).isLt
  refine ⟨text f, text g, fun h => hne ?_, List.length_ofFn, List.length_ofFn,
    List.forall_mem_append.2 ⟨hsmall f, hsmall g⟩, eq_of_places (hlength _) (hlength _) heq⟩
  funext i
  have hchar := congrFun (List.ofFn_injective h) i
  exact Fin.ext ((hcode (f i)).symm.trans ((congrArg Char.toNat hchar).trans (hcode (g i))))

end Loyalty.Digest
