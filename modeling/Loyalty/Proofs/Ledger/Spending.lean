import Loyalty.Proofs.Ledger.Overdraft
import Loyalty.Proofs.Order.Number

/-!
# Who may spend

Points are spent on a number if and only if the number is an order number, the amount may be
spent, the user has a balance that covers it, and the number is not used yet
(`Store.MaySpend`, `spend_iff`). The conditions are looked at in this order, and the first that
fails is reported (`Store.Refuses`).

What is withdrawn is added up before the number is looked for, so that a sum that overflows comes
before a number that is used. What is left to spend never overflows (`Balance.debit_cases`).
-/

namespace Loyalty

open Loyalty.Text

/-- A debit is refused if it is not covered, and overflows only in what is withdrawn, when what is
    left to spend is already written. -/
theorem Balance.debit_cases (b : Balance) {amount : Amount} (hamount : 0 ≤ amount.value) :
    (b.current < amount ∧ b.debit amount = (fails (.insufficientBalance amount b.current), b)) ∨
      amount ≤ b.current ∧
        ((b.withdrawn.add? amount = none ∧ ∃ current, b.current.sub? amount = some current ∧
            b.debit amount = (.error .overflow, { b with current })) ∨
          ∃ b', b.current.sub? amount = some b'.current ∧
            b.withdrawn.add? amount = some b'.withdrawn ∧ b.debit amount = (.ok (), b')) := by
  by_cases hmore : amount > b.current
  · exact .inl ⟨hmore, if_pos hmore⟩
  have hle : amount ≤ b.current := Amount.le_iff_not_lt.2 hmore
  obtain ⟨current, hsub⟩ := Option.isSome_iff_exists.1 (Amount.isSome_sub? hamount hle)
  refine .inr ⟨hle, ?_⟩
  cases hadd : b.withdrawn.add? amount with
  | none => exact .inl ⟨rfl, current, hsub, by simp only [debit, if_neg hmore, hsub, hadd]⟩
  | some withdrawn =>
    exact .inr ⟨⟨current, withdrawn⟩, hsub, rfl, by simp only [debit, if_neg hmore, hsub, hadd]⟩

namespace Store

variable {s s' : Store} {number raw : String} {amount : Amount} {user : Int} {now : Timestamp}

/-- All that it takes to spend points of a user on a number. -/
structure MaySpend (s : Store) (number : String) (amount : Amount) (user : Int) : Prop where
  valid : OrderNumber.Valid number
  spendable : amount.Spendable
  covered : ∃ b, s.balance? user = some b ∧ amount ≤ b.current
  unused : ∀ w ∈ s.withdrawals, w.number ≠ number

/-- The first condition that fails, and what is reported of it. -/
inductive Refuses (s : Store) (number : String) (amount : Amount) (user : Int) : Failure → Prop
  | number {cause : Invalid} (faulty : OrderNumber.Faulty number cause) :
    Refuses s number amount user (.invalid cause)
  | amount {cause : Invalid} (valid : OrderNumber.Valid number)
      (unspendable : amount.Unspendable cause) : Refuses s number amount user (.invalid cause)
  | user (valid : OrderNumber.Valid number) (spendable : amount.Spendable)
      (unknown : s.balance? user = none) :
    Refuses s number amount user (.userNotFound (toString user))
  | balance {b : Balance} (valid : OrderNumber.Valid number) (spendable : amount.Spendable)
      (balance : s.balance? user = some b) (more : b.current < amount) :
    Refuses s number amount user (.insufficientBalance amount b.current)
  | used {b : Balance} (valid : OrderNumber.Valid number) (spendable : amount.Spendable)
      (balance : s.balance? user = some b) (covered : amount ≤ b.current)
      (used : ∃ w ∈ s.withdrawals, w.number = number) :
    Refuses s number amount user (.withdrawalExists number)

/-- The amount is withdrawn under an id that no withdrawal has, and moved on the balance of its
    user. -/
structure Spends (s : Store) (number : String) (amount : Amount) (user : Int) (now : Timestamp)
    (id : Int) (s' : Store) : Prop where
  fresh : ∀ w ∈ s.withdrawals, w.id ≠ id
  withdrawals : s'.withdrawals = s.withdrawals ++ [⟨id, user, number, amount, now⟩]
  balance : ∃ b b', s.balance? user = some b ∧ b.current.sub? amount = some b'.current ∧
    b.withdrawn.add? amount = some b'.withdrawn ∧ s'.balance? user = some b'
  others : ∀ other ≠ user, s'.balance? other = s.balance? other
  orders : s'.orders = s.orders
  users : s'.users = s.users

theorem Refuses.not_maySpend {f : Failure} (h : s.Refuses number amount user f) :
    ¬ s.MaySpend number amount user := by
  rintro ⟨hvalid, hspendable, ⟨b, hb, hle⟩, hunused⟩
  cases h with
  | number hfaulty => exact hfaulty.not_valid hvalid
  | amount _ hunspendable => exact hunspendable.not_spendable hspendable
  | user _ _ hnone => cases hnone.symm.trans hb
  | balance _ _ hb' hmore =>
    cases hb'.symm.trans hb
    exact Amount.le_iff_not_lt.1 hle hmore
  | used _ _ _ _ hused =>
    obtain ⟨w, hw, hnumber⟩ := hused
    exact hunused w hw hnumber

theorem spends_addWithdrawal (hs : s.Reachable) {b b' : Balance} (hb : s.balance? user = some b)
    (hcurrent : b.current.sub? amount = some b'.current)
    (hwithdrawn : b.withdrawn.add? amount = some b'.withdrawn) :
    s.Spends number amount user now (s.lastWithdrawal + 1)
      ((s.addWithdrawal number amount user now).setBalance user b') where
  fresh := hs.numbered.withdrawal_ne
  withdrawals := rfl
  balance := by
    refine ⟨b, b', hb, hcurrent, hwithdrawn, ?_⟩
    rw [balance?_setBalance (s := s.addWithdrawal _ _ _ _) hb, if_pos rfl]
  others other hother := balance?_setBalance_of_ne hother _ b'
  orders := rfl
  users := rfl

/-- Points are spent, or the first condition that fails is reported and nothing changes. -/
theorem spend_cases (hs : s.Reachable) (raw : String) (amount : Amount) (user : Int)
    (now : Timestamp)
    (hroom : OrderNumber.Valid (trim raw) → amount.Spendable → ∀ b, s.balance? user = some b →
      amount ≤ b.current → b.withdrawn.add? amount ≠ none) :
    (s.MaySpend (trim raw) amount user ∧ ∃ id, (s.spend raw amount user now).1 = .ok id ∧
        s.Spends (trim raw) amount user now id (s.spend raw amount user now).2) ∨
      ∃ f, s.Refuses (trim raw) amount user f ∧ s.spend raw amount user now = (fails f, s) := by
  rw [spend]
  rcases OrderNumber.read_cases raw with ⟨hvalid, hread⟩ | ⟨cause, hfaulty, hread⟩
  swap
  · exact .inr ⟨_, .number hfaulty, by rw [hread]⟩
  rcases amount.checkSpend_cases with ⟨hspendable, hcheck⟩ | ⟨cause, hunspendable, hcheck⟩
  swap
  · exact .inr ⟨_, .amount hvalid hunspendable, by rw [hread, hcheck]⟩
  simp only [hread, hcheck]
  have hroom := hroom hvalid hspendable
  generalize trim raw = number at hvalid
  cases hb : s.balance? user with
  | none => exact .inr ⟨_, .user hvalid hspendable hb, by simp only [withdraw, hb]⟩
  | some b =>
    rcases b.debit_cases hspendable.1.le with
      ⟨hmore, hdebit⟩ | ⟨hle, ⟨hover, -⟩ | ⟨b', hcurrent, hwithdrawn, hdebit⟩⟩
    · exact .inr ⟨_, .balance hvalid hspendable hb hmore, by simp only [withdraw, hb, hdebit]⟩
    · exact absurd hover (hroom b hb hle)
    · by_cases hused : s.withdrawals.any (·.number = number) = true
      · refine .inr ⟨_, .used hvalid hspendable hb hle (by simpa using hused), ?_⟩
        simp only [withdraw, hb, hdebit, if_pos hused]
      · have hdone : s.withdraw number amount user now = (.ok (s.lastWithdrawal + 1),
            (s.addWithdrawal number amount user now).setBalance user b') := by
          simp only [withdraw, hb, hdebit, if_neg hused]
          rfl
        refine .inl ⟨⟨hvalid, hspendable, ⟨b, hb, hle⟩, by simpa using hused⟩,
          s.lastWithdrawal + 1, ?_⟩
        rw [hdone]
        exact ⟨rfl, spends_addWithdrawal hs hb hcurrent hwithdrawn⟩

/-- In every store to which operations lead, points are spent if and only if they may be,
    unless the sum of what is withdrawn overflows. Otherwise the first condition that fails is
    reported and nothing changes. -/
theorem spend_iff (hs : s.Reachable) (raw : String) (amount : Amount) (user : Int)
    (now : Timestamp)
    (hroom : OrderNumber.Valid (trim raw) → amount.Spendable → ∀ b, s.balance? user = some b →
      amount ≤ b.current → b.withdrawn.add? amount ≠ none) :
    ((∃ id, (s.spend raw amount user now).1 = .ok id) ↔ s.MaySpend (trim raw) amount user) ∧
    (∀ id, (s.spend raw amount user now).1 = .ok id →
      s.Spends (trim raw) amount user now id (s.spend raw amount user now).2) ∧
    ((∀ id, (s.spend raw amount user now).1 ≠ .ok id) →
      ∃ f, s.Refuses (trim raw) amount user f ∧ s.spend raw amount user now = (fails f, s)) := by
  rcases spend_cases hs raw amount user now hroom with
    ⟨hmay, id, hok, hspends⟩ | ⟨f, hrefuses, hspend⟩
  · refine ⟨iff_of_true ⟨id, hok⟩ hmay, fun id' hok' => ?_, fun hnot => absurd hok (hnot id)⟩
    cases hok.symm.trans hok'
    exact hspends
  · rw [hspend]
    exact ⟨iff_of_false (by simp) hrefuses.not_maySpend, by simp, fun _ => ⟨f, hrefuses, rfl⟩⟩

/-- A user earns ten points. -/
def earned : List Operation :=
  [.createUser "ann" "pw", .createOrder "18" 1 ⟨0, 0⟩,
    .credit ⟨1, 1, "18", .new, none, ⟨0, 0⟩⟩ (.of 10 0)]

/-- Three of ten points are spent on a number with blanks around it. -/
theorem spend_iff_three :
    let s := empty.operateAll earned
    ∃ id, (s.spend " 34 " (.of 300 2) 1 ⟨0, 0⟩).1 = .ok id ∧
      s.Spends "34" (.of 300 2) 1 ⟨0, 0⟩ id (s.spend " 34 " (.of 300 2) 1 ⟨0, 0⟩).2 := by
  intro s
  have hs : s.Reachable := ⟨earned, rfl⟩
  have hnumber : trim " 34 " = "34" := rfl
  obtain ⟨b, hb, hle, hroom⟩ : ∃ b, s.balance? 1 = some b ∧ Amount.of 300 2 ≤ b.current ∧
      b.withdrawn.add? (.of 300 2) ≠ none := ⟨_, rfl, by decide, by decide⟩
  have hmay : s.MaySpend (trim " 34 ") (.of 300 2) 1 :=
    ⟨by decide, by decide, ⟨b, hb, hle⟩, fun w hw => nomatch hw⟩
  obtain ⟨hiff, hspends, -⟩ := spend_iff hs " 34 " (.of 300 2) 1 ⟨0, 0⟩ fun _ _ c hc _ => by
    cases hb.symm.trans hc
    exact hroom
  obtain ⟨id, hok⟩ := hiff.2 hmay
  exact ⟨id, hok, hnumber ▸ hspends id hok⟩

end Store
end Loyalty
