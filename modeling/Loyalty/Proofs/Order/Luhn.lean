import Loyalty.Proofs.Order.Number
import Loyalty.Proofs.Text.Read
import Mathlib.Data.Nat.ModEq

/-!
# What the checksum finds

The Luhn sum is made of what every digit counts at its place from the right, so that a digit can
be looked at apart from those before and behind it (`luhn_append_cons`). At one place no two digits
count the same up to tens (`eq_of_countAt`).

* One digit put in the place of another one is always found, and two neighbours that change places
  are found unless they are 0 and 9, or the same (`errors_found`).
* Behind any digits exactly one digit makes the sum good (`exists_unique_last`).
* The sum is at most nine for each digit (`luhn_le`).
-/

namespace Loyalty.OrderNumber

open Loyalty.Text

variable {cs front back : List Char} {a b c : Char} {place d e : Nat}

/-! ## What a digit counts -/

theorem countAt_le (place : Nat) (h : d ≤ 9) : countAt place d ≤ 9 := by
  rw [countAt, doubled]
  split_ifs <;> omega

/-- At one place, different digits count differently, tens left aside. -/
theorem eq_of_countAt (hd : d ≤ 9) (he : e ≤ 9) (h : countAt place d ≡ countAt place e [MOD 10]) :
    d = e := by
  have hdoubled : ∀ d ≤ 9, ∀ e ≤ 9, doubled d % 10 = doubled e % 10 → d = e := by decide
  rw [Nat.ModEq, countAt, countAt] at h
  split_ifs at h
  · exact hdoubled d hd e he h
  · omega

/-- Two neighbours count the same the other way round, tens left aside, only if they are the same
    or 0 and 9. -/
theorem countAt_swap_iff (place : Nat) (hd : d ≤ 9) (he : e ≤ 9) :
    countAt (place + 1) d + countAt place e ≡ countAt (place + 1) e + countAt place d [MOD 10] ↔
      d = e ∨ (d = 0 ∧ e = 9) ∨ d = 9 ∧ e = 0 := by
  have hdoubled : ∀ d ≤ 9, ∀ e ≤ 9, ((doubled d + e) % 10 = (doubled e + d) % 10 ↔
      d = e ∨ (d = 0 ∧ e = 9) ∨ d = 9 ∧ e = 0) := by decide
  simp only [Nat.ModEq, countAt]
  -- Of two neighbouring places, one counts double.
  rcases Nat.mod_two_eq_zero_or_one place with hplace | hplace
  · rw [if_pos (by omega), if_neg (by omega), if_pos (by omega), if_neg (by omega)]
    exact hdoubled d hd e he
  · rw [if_neg (by omega), if_pos (by omega), if_neg (by omega), if_pos (by omega), Nat.add_comm,
      Nat.add_comm e, eq_comm]
    exact hdoubled d hd e he

/-! ## The sum -/

/-- What digits count when the last of them stands at that place. -/
def luhnFrom (place : Nat) (ds : List Nat) : Nat :=
  (ds.reverse.mapIdx fun i => countAt (i + place)).sum

theorem luhnFrom_append (place : Nat) (ds es : List Nat) :
    luhnFrom place (ds ++ es) = luhnFrom (es.length + place) ds + luhnFrom place es := by
  rw [luhnFrom, List.reverse_append, List.mapIdx_append, List.sum_append, List.length_reverse,
    Nat.add_comm]
  simp only [luhnFrom, Nat.add_assoc]

theorem luhn_append_cons (ds es : List Nat) (d : Nat) :
    luhn (ds ++ d :: es) = luhnFrom (es.length + 1) ds + countAt es.length d + luhn es := by
  have hcons : luhn (d :: es) = countAt es.length d + luhn es := by
    have happend := luhnFrom_append 0 [d] es
    simpa [luhnFrom, luhn] using happend
  have happend := luhnFrom_append 0 ds (d :: es)
  rw [List.length_cons, Nat.add_zero] at happend
  exact happend.trans (by rw [Nat.add_assoc, ← hcons]; rfl)

theorem luhn_le {ds : List Nat} (h : ∀ d ∈ ds, d ≤ 9) : luhn ds ≤ 9 * ds.length := by
  induction ds with
  | nil => exact Nat.le_refl 0
  | cons d ds ih =>
    obtain ⟨hd, hds⟩ := List.forall_mem_cons.1 h
    have hcons := luhn_append_cons [] ds d
    have hcount := countAt_le ds.length hd
    have hrest := ih hds
    rw [List.nil_append] at hcons
    rw [hcons, List.length_cons, luhnFrom]
    simp only [List.reverse_nil, List.mapIdx_nil, List.sum_nil]
    omega

/-! ## Digits as characters -/

theorem isDigit_iff : IsDigit c ↔ 48 ≤ c.toNat ∧ c.toNat ≤ 57 := by
  rw [IsDigit, le_iff_toNat_le, le_iff_toNat_le]
  rfl

theorem IsDigit.value_le (h : IsDigit c) : c.toNat - 48 ≤ 9 := by
  have := isDigit_iff.1 h
  omega

theorem IsDigit.value_inj (ha : IsDigit a) (hb : IsDigit b) :
    a.toNat - 48 = b.toNat - 48 ↔ a = b := by
  have := isDigit_iff.1 ha
  have := isDigit_iff.1 hb
  rw [← Char.toNat_inj]
  omega

/-- Every number below ten is the value of a digit. -/
theorem exists_isDigit {n : Nat} (h : n < 10) : ∃ c, IsDigit c ∧ c.toNat - 48 = n := by
  have hread := digitValue?_digitChar h
  rw [digitValue?] at hread
  split_ifs at hread with hdigit
  exact ⟨digitChar n, hdigit, Option.some.inj hread⟩

theorem eq_or_zero_nine_iff (ha : IsDigit a) (hb : IsDigit b) :
    (a.toNat - 48 = b.toNat - 48 ∨ (a.toNat - 48 = 0 ∧ b.toNat - 48 = 9) ∨
      a.toNat - 48 = 9 ∧ b.toNat - 48 = 0) ↔ (a = b ∨ (a = '0' ∧ b = '9') ∨ a = '9' ∧ b = '0') := by
  have hzero : IsDigit '0' := isDigit_iff.2 (by decide)
  have hnine : IsDigit '9' := isDigit_iff.2 (by decide)
  rw [← ha.value_inj hb, ← ha.value_inj hzero, ← hb.value_inj hnine, ← ha.value_inj hnine,
    ← hb.value_inj hzero]
  rfl

/-- The values of some digits. -/
def values (cs : List Char) : List Nat := cs.map fun c => c.toNat - 48

theorem values_le (h : ∀ c ∈ cs, IsDigit c) : ∀ d ∈ values cs, d ≤ 9 :=
  List.forall_mem_map.2 fun c hc => (h c hc).value_le

theorem luhn_values_append_cons (front back : List Char) (c : Char) :
    luhn (values (front ++ c :: back)) = luhnFrom (back.length + 1) (values front) +
      countAt back.length (c.toNat - 48) + luhn (values back) := by
  rw [values, List.map_append, List.map_cons, luhn_append_cons, List.length_map]
  rfl

theorem luhn_values_cons (c : Char) (back : List Char) : luhn (values (c :: back)) =
    countAt back.length (c.toNat - 48) + luhn (values back) := by
  have hsplit := luhn_values_append_cons [] back c
  simpa [values, luhnFrom] using hsplit

theorem checksum?_le {sum : Nat} (h : checksum? cs = some sum) : sum ≤ 9 * cs.length := by
  obtain ⟨ds, hds, hsum⟩ := Option.map_eq_some_iff.1 h
  have hdigits : ∀ c ∈ cs, IsDigit c := forall_isDigit_of_isSome (by rw [hds]; rfl)
  rw [digitValues?_of_digits hdigits, Option.some.injEq] at hds
  rw [← hsum, checksumFrom_reverse, ← hds, ← cs.length_map (f := fun c => c.toNat - 48)]
  exact luhn_le (values_le hdigits)

/-! ## Wrong digits -/

/-- Digits are checked by what one of them counts, with all others. -/
theorem checks_append_cons (h : ∀ x ∈ front ++ c :: back, IsDigit x) :
    checks (front ++ c :: back) = true ↔ luhnFrom (back.length + 1) (values front) +
      countAt back.length (c.toNat - 48) + luhn (values back) ≡ 0 [MOD 10] := by
  have hne : front ++ c :: back ≠ [] := List.append_ne_nil_of_right_ne_nil _ (List.cons_ne_nil _ _)
  rw [checks_iff, and_iff_right hne, and_iff_right h, ← luhn_values_append_cons,
    Nat.modEq_zero_iff_dvd, values]

theorem checks_replaced (hw : checks (front ++ a :: back) = true) (hc : IsDigit c) (hne : c ≠ a) :
    checks (front ++ c :: back) = false := by
  obtain ⟨-, hdigits, -⟩ := checks_iff.1 hw
  have ha : IsDigit a := hdigits a List.mem_append_cons_self
  have hdigits' : ∀ x ∈ front ++ c :: back, IsDigit x := by
    simp only [List.forall_mem_append, List.forall_mem_cons] at hdigits ⊢
    exact ⟨hdigits.1, hc, hdigits.2.2⟩
  rw [← Bool.not_eq_true]
  intro hw'
  -- Both sums are good, and the other digits count the same in both.
  have hsame := ((checks_append_cons hdigits').1 hw').trans ((checks_append_cons hdigits).1 hw).symm
  have hcount := Nat.ModEq.add_left_cancel' _ (Nat.ModEq.add_right_cancel' _ hsame)
  exact hne ((hc.value_inj ha).1 (eq_of_countAt hc.value_le ha.value_le hcount))

/-- Neighbours check the same the other way round if and only if they count the same so. -/
theorem checks_swapped (hw : checks (front ++ a :: b :: back) = true) :
    checks (front ++ b :: a :: back) = true ↔
      a = b ∨ (a = '0' ∧ b = '9') ∨ a = '9' ∧ b = '0' := by
  obtain ⟨-, hdigits, -⟩ := checks_iff.1 hw
  have hdigits' : ∀ x ∈ front ++ b :: a :: back, IsDigit x := by
    simp only [List.forall_mem_append, List.forall_mem_cons] at hdigits ⊢
    exact ⟨hdigits.1, hdigits.2.2.1, hdigits.2.1, hdigits.2.2.2⟩
  have ha : IsDigit a := hdigits a List.mem_append_cons_self
  have hb : IsDigit b := hdigits' b List.mem_append_cons_self
  have hgood := (checks_append_cons hdigits).1 hw
  have hcount := countAt_swap_iff back.length ha.value_le hb.value_le
  rw [eq_or_zero_nine_iff ha hb] at hcount
  rw [checks_append_cons hdigits', ← hcount]
  rw [luhn_values_cons, List.length_cons, Nat.ModEq] at hgood ⊢
  rw [Nat.ModEq]
  omega

/-! ## The last digit -/

/-- Behind any digits, exactly one digit makes the sum good. -/
theorem exists_unique_last (h : ∀ c ∈ cs, IsDigit c) :
    ∃! d, IsDigit d ∧ checks (cs ++ [d]) = true := by
  have hchecks {d : Char} (hd : IsDigit d) : checks (cs ++ [d]) = true ↔
      (luhnFrom 1 (values cs) + (d.toNat - 48)) % 10 = 0 :=
    checks_append_cons (List.forall_mem_append.2 ⟨h, List.forall_mem_singleton.2 hd⟩)
  obtain ⟨d, hd, hvalue⟩ : ∃ d, IsDigit d ∧
      d.toNat - 48 = (10 - luhnFrom 1 (values cs) % 10) % 10 :=
    exists_isDigit (Nat.mod_lt _ (by decide))
  refine ⟨d, ⟨hd, (hchecks hd).2 (by omega)⟩, fun e he => ?_⟩
  obtain ⟨he, hsum⟩ := he
  have hsum := (hchecks he).1 hsum
  have hle := he.value_le
  exact (he.value_inj hd).1 (by omega)

/-! ## Errors -/

/-- If another digit is put in one place of a good number, the number is not good any more. If two
    neighbours change places, it stays good only if they are the same or 0 and 9. As long as there
    are fewer than `2 ^ 28` digits, no sum on the way, here or there, needs more than 32 bits. -/
theorem errors_found {w : List Char} (hw : checks w = true) :
    (∀ front a c back, w = front ++ a :: back → IsDigit c → c ≠ a →
      checks (front ++ c :: back) = false) ∧
    (∀ front a b back, w = front ++ a :: b :: back →
      (checks (front ++ b :: a :: back) = true ↔
        a = b ∨ (a = '0' ∧ b = '9') ∨ a = '9' ∧ b = '0')) ∧
    (w.length < 2 ^ 28 → ∀ cs : List Char, cs.length ≤ w.length →
      ∀ sum, checksum? cs = some sum → sum ≤ word32Max) := by
  refine ⟨?_, ?_, ?_⟩
  · rintro front a c back rfl hc hne
    exact checks_replaced hw hc hne
  · rintro front a b back rfl
    exact checks_swapped hw
  · intro hw cs hcs sum hsum
    have hle := checksum?_le hsum
    rw [word32Max]
    omega

/-- The first two digits of 091 can change places unnoticed, the last two cannot. -/
theorem errors_found_neighbours :
    checks "091".toList = true ∧ checks "901".toList = true ∧ checks "019".toList = false ∧
      checks "081".toList = false := by
  have hw : checks "091".toList = true := by decide
  obtain ⟨hreplaced, hswapped, -⟩ := errors_found hw
  have height : IsDigit '8' := isDigit_iff.2 (by decide)
  refine ⟨hw, (hswapped [] '0' '9' ['1'] rfl).2 (.inr (.inl ⟨rfl, rfl⟩)), ?_, ?_⟩
  · rw [← Bool.not_eq_true]
    exact fun h => absurd ((hswapped ['0'] '9' '1' [] rfl).1 h) (by decide)
  · exact hreplaced ['0'] '9' '8' ['1'] rfl height (by decide)

end Loyalty.OrderNumber
