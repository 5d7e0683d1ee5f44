import Loyalty.Proofs.Amount.Sum
import Loyalty.Proofs.Ledger.Rows
import Mathlib.Algebra.BigOperators.Group.List.Basic

/-!
# Balances and what they stand for

A balance is *sound* if its parts are whole hundredths, not negative, and
together no more than 96 bits can count (`Balance.Sound`). Credits and debits of
whole hundredths are exact on a sound balance (`Sound.credit`, `Sound.debit`).

A store is *balanced* for a user if what the user has withdrawn is the sum of
the user's withdrawals, and this and what the user can spend are together the
sum of the accruals of the user's processed orders (`Store.Balanced`). This is
kept by whatever changes the rows of the store as the ledger does.
-/

namespace Loyalty

namespace Balance

variable {b b' : Balance} {amount : Amount}

/-- Whole hundredths, no debts, and no more than 96 bits can count. -/
structure Sound (b : Balance) : Prop where
  current_dvd : (Amount.hundredth : Int) ∣ b.current.value
  withdrawn_dvd : (Amount.hundredth : Int) ∣ b.withdrawn.value
  current_nonneg : 0 ≤ b.current.value
  withdrawn_nonneg : 0 ≤ b.withdrawn.value
  le_ceiling : b.current.value + b.withdrawn.value ≤ Amount.ceiling

theorem sound_zero : zero.Sound := by
  have hceiling : (0 : Int) ≤ Amount.ceiling := Int.natCast_nonneg _
  refine ⟨?_, ?_, ?_, ?_, ?_⟩ <;> simp [zero, Amount.value_zero, hceiling]

/-- A credit that is done or overflows is not negative. -/
theorem nonneg_of_credit {result : Outcome Balance} (h : b.credit amount = result)
    (hresult : ∀ cause, result ≠ fails cause) : 0 ≤ amount.value := by
  rw [credit] at h
  cases hc : amount.checkCredit with
  | error cause =>
    rw [hc] at h
    exact absurd h.symm (hresult (.invalid cause))
  | ok u => exact Amount.checkCredit_eq_ok.1 hc

/-- A credit of whole hundredths is exact. -/
theorem credit_exact (hcurrent : (Amount.hundredth : Int) ∣ b.current.value)
    (hnonneg : 0 ≤ b.current.value) (hdvd : (Amount.hundredth : Int) ∣ amount.value)
    (hamount : 0 ≤ amount.value) (hle : b.current.value + amount.value ≤ Amount.ceiling) :
    ∃ b', b.credit amount = .ok b' ∧ b'.current.value = b.current.value + amount.value ∧
      b'.withdrawn = b.withdrawn := by
  obtain ⟨c, hadd, hvalue⟩ := Amount.value_add? hcurrent hdvd (Amount.natAbs_lt (by omega) hle)
  have hcheck : amount.checkCredit = .ok () := Amount.checkCredit_eq_ok.2 hamount
  exact ⟨{ b with current := c }, by simp only [Balance.credit, hcheck, hadd], hvalue, rfl⟩

/-- A credit of whole hundredths keeps a balance sound. -/
theorem Sound.credit (hb : b.Sound) (hdvd : (Amount.hundredth : Int) ∣ amount.value)
    (hnonneg : 0 ≤ amount.value)
    (hle : b.current.value + b.withdrawn.value + amount.value ≤ Amount.ceiling) :
    ∃ b', b.credit amount = .ok b' ∧ b'.current.value = b.current.value + amount.value ∧
      b'.withdrawn = b.withdrawn ∧ b'.Sound := by
  have hcurrent := hb.current_nonneg
  have hwithdrawn := hb.withdrawn_nonneg
  obtain ⟨b', hcredit, hvalue, hkept⟩ :=
    credit_exact hb.current_dvd hcurrent hdvd hnonneg (by omega)
  refine ⟨b', hcredit, hvalue, hkept, ?_⟩
  refine ⟨?_, hkept ▸ hb.withdrawn_dvd, ?_, hkept ▸ hwithdrawn, ?_⟩
  · simpa only [hvalue] using Int.dvd_add hb.current_dvd hdvd
  · rw [hvalue]
    omega
  · rw [hvalue, hkept]
    omega

/-- A debit of whole hundredths is refused, or exact. -/
theorem Sound.debit (hb : b.Sound) (hcheck : amount.checkSpend = .ok ()) :
    (∃ cause, (b.debit amount).1 = fails cause) ∨
      ∃ b', b.debit amount = (.ok (), b') ∧ b'.current.value = b.current.value - amount.value ∧
        b'.withdrawn.value = b.withdrawn.value + amount.value ∧ b'.Sound := by
  obtain ⟨hpos, hdvd⟩ := Amount.checkSpend_spec hcheck
  obtain ⟨hcdvd, hwdvd, hcurrent, hwithdrawn, hle⟩ := hb
  by_cases hmore : amount > b.current
  · exact .inl ⟨_, by rw [Balance.debit, if_pos hmore]⟩
  · -- No more leaves the balance than it has, so all sums stay below the ceiling.
    have henough : amount.value ≤ b.current.value := not_lt.1 hmore
    obtain ⟨c, hsub, hc⟩ := Amount.value_sub? hcdvd hdvd (Amount.natAbs_lt (by omega) (by omega))
    obtain ⟨w, hadd, hw⟩ := Amount.value_add? hwdvd hdvd (Amount.natAbs_lt (by omega) (by omega))
    refine .inr ⟨⟨c, w⟩, by simp only [Balance.debit, if_neg hmore, hsub, hadd], hc, hw, ?_⟩
    refine ⟨?_, ?_, ?_, ?_, ?_⟩
    · simpa only [hc] using Int.dvd_sub hcdvd hdvd
    · simpa only [hw] using Int.dvd_add hwdvd hdvd
    · simp only [hc]; omega
    · simp only [hw]; omega
    · simp only [hc, hw]; omega

end Balance

namespace Store

variable {s s' : Store} {user u : Int} {b b' : Balance} {id : Int} {o : Order}

/-! ## What belongs to a user -/

/-- The balance of a user, which is nothing for one that is not registered. -/
def purse (s : Store) (user : Int) : Balance := (s.balance? user).getD .zero

/-- The accruals of the processed orders of a user. -/
def accrualsOf (s : Store) (user : Int) : List Amount :=
  (s.orders.filter fun o => o.user = user ∧ o.status = .processed).filterMap (·.accrual)

/-- The amounts of the withdrawals of a user. -/
def spentOf (s : Store) (user : Int) : List Amount := (s.withdrawalsOf user).map (·.amount)

theorem purse_eq (hb : s.balance? user = some b) : s.purse user = b := by
  rw [purse, hb, Option.getD_some]

theorem purse_congr (h : s'.balances = s.balances) (user : Int) : s'.purse user = s.purse user := by
  rw [purse, purse, balance?, balance?, h]

theorem purse_addUser (s : Store) (login passwordHash : String) (user : Int) :
    (s.addUser login passwordHash).purse user = s.purse user := by
  rw [purse, purse, balance?, balance?, addUser, List.lookup_append]
  cases s.balances.lookup user with
  | some b => rfl
  | none =>
    rw [Option.none_or, List.lookup_cons]
    split <;> rfl

/-- Setting a balance shows for its user only, who must have one. -/
theorem balance?_setBalance_eq_map (s : Store) (u : Int) (b' : Balance) (user : Int) :
    (s.setBalance u b').balance? user =
      (s.balance? user).map fun c => if user = u then b' else c := by
  rw [balance?, balance?, setBalance]
  induction s.balances with
  | nil => rfl
  | cons row rows ih =>
    obtain ⟨k, c⟩ := row
    rw [List.map_cons, List.lookup_cons, List.lookup_cons, ih]
    by_cases hk : k = u <;> by_cases huser : user = k
    · simp [← hk, huser]
    · simp [hk, beq_false_of_ne (hk ▸ huser)]
    · simp [huser, hk]
    · simp [hk, beq_false_of_ne huser]

theorem balance?_setBalance_of_ne (huser : user ≠ u) (s : Store) (b' : Balance) :
    (s.setBalance u b').balance? user = s.balance? user := by
  rw [balance?_setBalance_eq_map]
  simp [huser]

/-- Setting a balance that is there shows for its user only. -/
theorem balance?_setBalance (hb : s.balance? u = some b) (b' : Balance) (user : Int) :
    (s.setBalance u b').balance? user = if user = u then some b' else s.balance? user := by
  split_ifs with huser
  · rw [balance?_setBalance_eq_map, huser, hb, Option.map_some, if_pos rfl]
  · exact balance?_setBalance_of_ne huser s b'

theorem purse_setBalance (hb : s.balance? u = some b) (b' : Balance) (user : Int) :
    (s.setBalance u b').purse user = if user = u then b' else s.purse user := by
  rw [purse, balance?_setBalance hb]
  split_ifs <;> rfl

/-- What a user earns with an order, in grains. -/
def earning (user : Int) (o : Order) : Int :=
  if o.user = user ∧ o.status = .processed then Amount.total o.accrual.toList else 0

theorem total_accrualsOf (s : Store) (user : Int) :
    Amount.total (s.accrualsOf user) = (s.orders.map (earning user)).sum := by
  rw [accrualsOf]
  induction s.orders with
  | nil => rfl
  | cons o orders ih =>
    rw [List.filter_cons, List.map_cons, List.sum_cons, earning, ← ih]
    by_cases h : o.user = user ∧ o.status = .processed
    · rw [if_pos h, if_pos (by simpa using h), List.filterMap_cons]
      cases o.accrual <;> simp
    · rw [if_neg h, if_neg (by simpa using h), Int.zero_add]

/-- A new order earns nothing. -/
theorem total_addOrder (s : Store) (number : String) (owner : Int) (now : Timestamp) (user : Int) :
    Amount.total ((s.addOrder number owner now).accrualsOf user) =
      Amount.total (s.accrualsOf user) := by
  rw [total_accrualsOf, total_accrualsOf, addOrder]
  simp [earning]

/-- Replacing an order changes a sum over all orders by what it changes of that
    order. -/
theorem sum_updateOrder (hs : (s.orders.map (·.id)).Nodup) (ho : s.order? id = some o)
    (f : Order → Order) (g : Order → Int) :
    ((s.updateOrder id f).orders.map g).sum = (s.orders.map g).sum - g o + g (f o) := by
  obtain ⟨others, hperm, hperm'⟩ := perm_updateOrder hs ho f
  rw [(hperm.map g).sum_eq, (hperm'.map g).sum_eq, List.map_cons, List.map_cons, List.sum_cons,
    List.sum_cons]
  omega

/-- An order that is not processed, and does not become so, earns nothing. -/
theorem total_mark (hs : (s.orders.map (·.id)).Nodup) (ho : s.order? id = some o)
    (hold : o.status ≠ .processed) {status : OrderStatus} (hnew : status ≠ .processed)
    (user : Int) :
    Amount.total ((s.updateOrder id fun o => { o with status }).accrualsOf user) =
      Amount.total (s.accrualsOf user) := by
  rw [total_accrualsOf, total_accrualsOf, sum_updateOrder hs ho]
  simp [earning, hold, hnew]

/-- A credit adds to what the user of the order earns, and to nothing else. -/
theorem total_credit (hs : (s.orders.map (·.id)).Nodup) (ho : s.order? o.id = some o)
    (hold : o.status ≠ .processed) (points : Amount) (b' : Balance) (user : Int) :
    Amount.total (((s.updateOrder o.id fun o =>
        { o with status := .processed, accrual := some points }).setBalance o.user b').accrualsOf
          user) =
      Amount.total (s.accrualsOf user) + if o.user = user then points.value else 0 := by
  rw [total_accrualsOf, total_accrualsOf, setBalance]
  dsimp only
  rw [sum_updateOrder hs ho]
  by_cases huser : o.user = user <;> simp [earning, hold, huser]

/-! ## What keeps a store balanced -/

/-- What a user has withdrawn are the user's withdrawals, and what the user has
    altogether are the accruals of the user's processed orders. -/
structure Balanced (s : Store) (user : Int) : Prop where
  sound : (s.purse user).Sound
  withdrawn : (s.purse user).withdrawn.value = Amount.total (s.spentOf user)
  earned : (s.purse user).current.value + (s.purse user).withdrawn.value =
    Amount.total (s.accrualsOf user)

namespace Balanced

theorem congr (h : s.Balanced user) (hpurse : s'.purse user = s.purse user)
    (hspent : s'.spentOf user = s.spentOf user)
    (hearned : Amount.total (s'.accrualsOf user) = Amount.total (s.accrualsOf user)) :
    s'.Balanced user :=
  ⟨hpurse ▸ h.sound, by rw [hpurse, hspent, h.withdrawn], by rw [hpurse, hearned, h.earned]⟩

theorem of_rows (h : s.Balanced user) (hrows : s'.rows = s.rows) : s'.Balanced user := by
  refine h.congr (purse_congr (balances_of_rows hrows) user) ?_ ?_
  · rw [spentOf, spentOf, withdrawalsOf, withdrawalsOf, withdrawals_of_rows hrows]
  · rw [accrualsOf, accrualsOf, orders_of_rows hrows]

theorem addUser (h : s.Balanced user) (login passwordHash : String) :
    (s.addUser login passwordHash).Balanced user :=
  h.congr (purse_addUser s login passwordHash user) rfl rfl

theorem addOrder (h : s.Balanced user) (number : String) (owner : Int) (now : Timestamp) :
    (s.addOrder number owner now).Balanced user :=
  h.congr rfl rfl (total_addOrder s number owner now user)

theorem mark (h : s.Balanced user) (hs : (s.orders.map (·.id)).Nodup) (ho : s.order? id = some o)
    (hold : o.status ≠ .processed) {status : OrderStatus} (hnew : status ≠ .processed) :
    (s.updateOrder id fun o => { o with status }).Balanced user :=
  h.congr rfl rfl (total_mark hs ho hold hnew user)

theorem withdraw (h : s.Balanced user) {amount : Amount} (hb : s.balance? u = some b)
    (hcheck : amount.checkSpend = .ok ()) (hdebit : b.debit amount = (.ok (), b'))
    (number : String) (now : Timestamp) :
    ((s.addWithdrawal number amount u now).setBalance u b').Balanced user := by
  have hb' : (s.addWithdrawal number amount u now).balance? u = some b := hb
  by_cases huser : user = u
  · subst huser
    have hpurse : s.purse user = b := purse_eq hb
    obtain ⟨hsound, hwithdrawn, hearned⟩ := h
    rw [hpurse] at hsound hwithdrawn hearned
    obtain ⟨cause, hfails⟩ | ⟨c, hc, hcurrent, hspent, hc'⟩ := hsound.debit hcheck
    · rw [hdebit] at hfails
      cases hfails
    · obtain rfl : b' = c := by simpa [hdebit] using hc
      have htotal : ((s.addWithdrawal number amount user now).setBalance user b').spentOf user =
          s.spentOf user ++ [amount] := by
        simp [spentOf, withdrawalsOf, addWithdrawal, setBalance]
      refine ⟨?_, ?_, ?_⟩ <;> rw [purse_setBalance hb', if_pos rfl]
      · exact hc'
      · rw [hspent, htotal, hwithdrawn, Amount.total_append, Amount.total_cons, Amount.total_nil,
          Int.add_zero]
      · rw [hcurrent, hspent, show ((s.addWithdrawal number amount user now).setBalance user
          b').accrualsOf user = s.accrualsOf user from rfl, ← hearned]
        omega
  · refine h.congr (by rw [purse_setBalance hb', if_neg huser]; rfl) ?_ rfl
    have hother : u ≠ user := fun hu => huser hu.symm
    simp [spentOf, withdrawalsOf, addWithdrawal, setBalance, hother]

theorem credit (h : s.Balanced user) (hs : (s.orders.map (·.id)).Nodup)
    (ho : s.order? o.id = some o) (hold : o.status ≠ .processed) {points : Amount}
    (hb : s.balance? o.user = some b) (hcredit : b.credit points = .ok b')
    (hdvd : (Amount.hundredth : Int) ∣ points.value)
    (hle : o.user = user → Amount.total (s.accrualsOf user) + points.value ≤ Amount.ceiling) :
    ((s.updateOrder o.id fun o =>
      { o with status := .processed, accrual := some points }).setBalance o.user b').Balanced
        user := by
  have hb' : (s.updateOrder o.id fun o =>
      { o with status := .processed, accrual := some points }).balance? o.user = some b := hb
  by_cases huser : o.user = user
  · have hpurse : s.purse user = b := purse_eq (huser ▸ hb)
    obtain ⟨hsound, hwithdrawn, hearned⟩ := h
    rw [hpurse] at hsound hwithdrawn hearned
    have hnonneg : 0 ≤ points.value := Balance.nonneg_of_credit hcredit (by simp [fails])
    obtain ⟨c, hc, hcurrent, hkept, hsound'⟩ :=
      hsound.credit hdvd hnonneg (hearned ▸ hle huser)
    obtain rfl : b' = c := by simpa [hcredit] using hc
    refine ⟨?_, ?_, ?_⟩ <;> rw [purse_setBalance hb', if_pos huser.symm]
    · exact hsound'
    · rw [hkept, hwithdrawn]
      rfl
    · rw [total_credit hs ho hold, if_pos huser, hcurrent, hkept, ← hearned]
      omega
  · refine h.congr ?_ rfl ?_
    · rw [purse_setBalance hb', if_neg fun hu => huser hu.symm]
      rfl
    · rw [total_credit hs ho hold, if_neg huser, Int.add_zero]

end Balanced

end Store
end Loyalty
