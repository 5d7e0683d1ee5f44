import Loyalty.Proofs.Amount.Rounded
import Loyalty.Proofs.Ledger.Balances
import Loyalty.Proofs.Ledger.Services

/-!
# No overdraft

Amounts of any scale and size may be credited and spent, so that sums of a
balance are rounded, or overflow. Even so, no user can ever spend below nothing,
and what a user has withdrawn never becomes less.

* `Change.balance`: what an operation does to the balance of a user;
* `Reachable.current_nonneg`: after any operations, no user has less than nothing
  to spend, as a debit is refused before anything is rounded;
* `no_overdraft`: after any deeds, no balance is negative, and no further deed
  makes less of what a user has withdrawn. This takes the check of what may be
  spent: the store itself debits negative amounts, too.
-/

namespace Loyalty

namespace Balance

variable {b b' : Balance} {amount : Amount}

/-- A credit that is done adds to what can be spent. -/
theorem credit_eq_ok (h : b.credit amount = .ok b') :
    ∃ current, b.current.add? amount = some current ∧ b' = { b with current } := by
  rw [credit] at h
  cases hcheck : amount.checkCredit with
  | error cause =>
    rw [hcheck] at h
    cases h
  | ok u =>
    cases hadd : b.current.add? amount with
    | none =>
      rw [hcheck, hadd] at h
      cases h
    | some current =>
      rw [hcheck, hadd] at h
      cases h
      exact ⟨current, rfl, rfl⟩

/-- A debit that is done moves what is covered to what is withdrawn. -/
theorem debit_eq_ok (h : b.debit amount = (.ok (), b')) :
    amount.value ≤ b.current.value ∧ b.current.sub? amount = some b'.current ∧
      b.withdrawn.add? amount = some b'.withdrawn := by
  rw [debit] at h
  split_ifs at h with hmore
  · cases h
  cases hsub : b.current.sub? amount with
  | none =>
    rw [hsub] at h
    cases h
  | some current =>
    cases hadd : b.withdrawn.add? amount with
    | none =>
      rw [hsub, hadd] at h
      cases h
    | some withdrawn =>
      rw [hsub, hadd] at h
      cases h
      exact ⟨not_lt.1 hmore, rfl, rfl⟩

theorem current_nonneg_of_credit (hb : 0 ≤ b.current.value) (h : b.credit amount = .ok b') :
    0 ≤ b'.current.value := by
  have hamount : 0 ≤ amount.value := nonneg_of_credit h (by simp [fails])
  obtain ⟨current, hadd, rfl⟩ := credit_eq_ok h
  exact Amount.nonneg_add? hadd (Int.add_nonneg hb hamount)

theorem withdrawn_of_credit (h : b.credit amount = .ok b') : b'.withdrawn = b.withdrawn := by
  obtain ⟨current, -, rfl⟩ := credit_eq_ok h
  rfl

/-- What is left is not negative, however it was rounded, and whatever was there. -/
theorem current_nonneg_of_debit (h : b.debit amount = (.ok (), b')) : 0 ≤ b'.current.value := by
  obtain ⟨hle, hsub, -⟩ := debit_eq_ok h
  exact Amount.nonneg_sub? hsub hle

theorem withdrawn_le_of_debit (hb : 0 ≤ b.withdrawn.value) (hamount : 0 ≤ amount.value)
    (h : b.debit amount = (.ok (), b')) : b.withdrawn.value ≤ b'.withdrawn.value :=
  Amount.le_add? (debit_eq_ok h).2.2 hb hamount

end Balance

namespace Store

open Relation

variable {s s' : Store} {user : Int} {operation : Operation} {b? b?' : Option Balance}

/-! ## What an operation does to a balance -/

/-- How an operation can change the balance of a user. -/
inductive BalanceChange (user : Int) : Operation → Option Balance → Option Balance → Prop
  | stays (operation : Operation) (b? : Option Balance) : BalanceChange user operation b? b?
  /-- The user is registered. -/
  | opened (login passwordHash : String) :
    BalanceChange user (.createUser login passwordHash) none (some .zero)
  | credited (order : Order) (amount : Amount) (b b' : Balance) (owner : order.user = user)
      (credit : b.credit amount = .ok b') :
    BalanceChange user (.credit order amount) (some b) (some b')
  | debited (number : String) (amount : Amount) (now : Timestamp) (b b' : Balance)
      (debit : b.debit amount = (.ok (), b')) :
    BalanceChange user (.withdraw number amount user now) (some b) (some b')

theorem Change.balance (h : s.Change operation s') (user : Int) :
    BalanceChange user operation (s.balance? user) (s'.balance? user) := by
  cases h with
  | stays operation s' rows =>
    rw [eq_of_rows rows]
    exact .stays operation _
  | user login passwordHash fresh =>
    -- The new balance is last, and so shows only to a user who had none.
    rw [balance?, balance?, addUser, List.lookup_append]
    cases s.balances.lookup user with
    | some b => exact .stays _ _
    | none =>
      rw [Option.none_or, List.lookup_cons]
      split
      · exact .opened login passwordHash
      · exact .stays _ _
  | order number owner now fresh => exact .stays _ _
  | marked id status ne => exact .stays _ _
  | credited order amount b b' balance credit =>
    -- The order is written first, which leaves the balances as they are.
    rw [balance?_setBalance (s := s.updateOrder _ _) balance]
    split_ifs with huser
    · rw [huser, balance]
      exact .credited order amount b b' rfl credit
    · exact .stays _ _
  | withdrawn number amount owner now b b' balance debit fresh =>
    rw [balance?_setBalance (s := s.addWithdrawal _ _ _ _) balance]
    split_ifs with huser
    · rw [huser, balance]
      exact .debited number amount now b b' debit
    · exact .stays _ _

theorem BalanceChange.current_nonneg (h : BalanceChange user operation b? b?')
    (hb : ∀ b ∈ b?, 0 ≤ b.current.value) : ∀ b' ∈ b?', 0 ≤ b'.current.value := by
  cases h with
  | stays operation => exact hb
  | opened login passwordHash => simpa using Balance.sound_zero.current_nonneg
  | credited order amount b b' owner credit =>
    simpa using Balance.current_nonneg_of_credit (hb b rfl) credit
  | debited number amount now b b' debit => simpa using Balance.current_nonneg_of_debit debit

/-- No operation that services do takes anything back of what is withdrawn. -/
theorem BalanceChange.withdrawn_le (h : BalanceChange user operation b? b?')
    (hchecked : operation.Checked) {b : Balance} (hb : b? = some b)
    (hnonneg : 0 ≤ b.withdrawn.value) :
    ∃ b', b?' = some b' ∧ b.withdrawn.value ≤ b'.withdrawn.value := by
  cases h with
  | stays operation => exact ⟨b, hb, le_rfl⟩
  | opened login passwordHash => cases hb
  | credited order amount b b' owner credit =>
    cases hb
    exact ⟨b', rfl, by rw [Balance.withdrawn_of_credit credit]⟩
  | debited number amount now b b' debit =>
    cases hb
    have hamount : 0 ≤ amount.value := (Amount.checkSpend_spec hchecked).1.le
    exact ⟨b', rfl, Balance.withdrawn_le_of_debit hnonneg hamount debit⟩

theorem BalanceChange.withdrawn_nonneg (h : BalanceChange user operation b? b?')
    (hchecked : operation.Checked) (hb : ∀ b ∈ b?, 0 ≤ b.withdrawn.value) :
    ∀ b' ∈ b?', 0 ≤ b'.withdrawn.value := by
  cases hb? : b? with
  | some b =>
    have hnonneg : 0 ≤ b.withdrawn.value := hb b hb?
    obtain ⟨b', rfl, hle⟩ := h.withdrawn_le hchecked hb? hnonneg
    simpa using hnonneg.trans hle
  | none =>
    -- A balance that comes up has nothing withdrawn.
    subst hb?
    cases h with
    | stays operation => exact hb
    | opened login passwordHash => simpa using Balance.sound_zero.withdrawn_nonneg

/-! ## Along a run -/

/-- After any operations, nobody has less than nothing to spend. -/
theorem Reachable.current_nonneg (hs : s.Reachable) : ∀ b ∈ s.balance? user, 0 ≤ b.current.value :=
  hs.induct (P := fun t => ∀ b ∈ t.balance? user, 0 ≤ b.current.value)
    (fun _ hb => nomatch hb) fun t operation ht =>
      ((t.operate_change operation).balance user).current_nonneg ht

theorem withdrawn_nonneg_of_served (hs : ∀ b ∈ s.balance? user, 0 ≤ b.withdrawn.value)
    (h : ReflTransGen Served s s') : ∀ b ∈ s'.balance? user, 0 ≤ b.withdrawn.value := by
  induction h with
  | refl => exact hs
  | tail _ hlast ih =>
    obtain ⟨operation, hchecked, rfl⟩ := hlast
    exact ((operate_change _ operation).balance user).withdrawn_nonneg hchecked ih

theorem withdrawn_le_of_served {b : Balance} (hb : s.balance? user = some b)
    (hnonneg : 0 ≤ b.withdrawn.value) (h : ReflTransGen Served s s') :
    ∃ b', s'.balance? user = some b' ∧ b.withdrawn.value ≤ b'.withdrawn.value := by
  induction h with
  | refl => exact ⟨b, hb, le_rfl⟩
  | tail _ hlast ih =>
    obtain ⟨operation, hchecked, rfl⟩ := hlast
    obtain ⟨c, hc, hle⟩ := ih
    obtain ⟨b', hb', hle'⟩ :=
      ((operate_change _ operation).balance user).withdrawn_le hchecked hc (hnonneg.trans hle)
    exact ⟨b', hb', hle.trans hle'⟩

/-- After any deeds, with any amounts, no user has less than nothing to spend or
    has withdrawn less than nothing, and whatever is done next leaves the user a
    balance with no less withdrawn. -/
theorem no_overdraft (deeds : List Deed) {user : Int} {b : Balance}
    (hb : (empty.performAll deeds).balance? user = some b) :
    0 ≤ b.current.value ∧ 0 ≤ b.withdrawn.value ∧
      ∀ deed, ∃ b', ((empty.performAll deeds).perform deed).balance? user = some b' ∧
        b.withdrawn.value ≤ b'.withdrawn.value := by
  have hwithdrawn : 0 ≤ b.withdrawn.value :=
    withdrawn_nonneg_of_served (s := empty) (fun _ hc => nomatch hc)
      (performAll_served empty deeds) b hb
  refine ⟨(reachable_performAll deeds).current_nonneg b hb, hwithdrawn, fun deed => ?_⟩
  exact withdrawn_le_of_served hb hwithdrawn (perform_served _ deed)

/-- The most hundredths that 96 bits can count are earned and spent. Then another
    point is earned, of which a hundredth is about to be spent. -/
def brimful : List Deed :=
  let most : Amount := .of 79228162514264337593543950335 2
  let one : Amount := .of 1 0
  let first : Order := ⟨1, 1, "18", .processing, none, ⟨0, 0⟩⟩
  let second : Order := ⟨2, 1, "26", .processing, none, ⟨0, 0⟩⟩
  [.register 1 [] "ann" "pw", .submit "18" 1 ⟨0, 0⟩, .claim first,
    .settle first (.ok ⟨"18", .processed, some most⟩), .spend "34" most 1 ⟨0, 0⟩,
    .submit "26" 1 ⟨0, 0⟩, .claim second, .settle second (.ok ⟨"26", .processed, some one⟩)]

/-- What is withdrawn loses a place, and is rounded up. -/
theorem no_overdraft_brimful : ∃ b b' : Balance,
    (empty.performAll brimful).balance? 1 = some b ∧ 0 ≤ b.current.value ∧
      ((empty.performAll brimful).perform
        (.spend "42" (.of 1 2) 1 ⟨0, 0⟩)).balance? 1 = some b' ∧
      b'.withdrawn = .of 7922816251426433759354395034 1 ∧
      b.withdrawn.value ≤ b'.withdrawn.value := by
  obtain ⟨b, hb⟩ : ∃ b, (empty.performAll brimful).balance? 1 = some b := ⟨_, rfl⟩
  obtain ⟨hcurrent, -, hnext⟩ := no_overdraft brimful hb
  obtain ⟨b', hb', hle⟩ := hnext (.spend "42" (.of 1 2) 1 ⟨0, 0⟩)
  refine ⟨b, b', hb, hcurrent, hb', ?_, hle⟩
  cases hb'
  rfl

end Store
end Loyalty
