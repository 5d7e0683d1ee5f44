import Loyalty.Proofs.Ledger.Representation
import Loyalty.Proofs.Ledger.Settling

/-!
# A second credit

The store does not look at the status of an order that is credited. An order that
was credited before, whatever it was marked since, is credited again like any
other: the points are added once more, and take the place of the accrual that was
there (`credited_again`). What a credit comes to hangs on the failures that were
told, the sign of the points, and the room on the balance, and on nothing else
(`credit_ok_iff`).

Orders are passed to the store as it gave them out (`Had`), maybe long ago: their
numbers and users stay what they were (`Had.order?`).
-/

namespace Loyalty

namespace Store

variable {s s' : Store} {order o : Order} {b : Balance} {amount : Amount}
  {history : List Operation}

/-! ## What a credit comes to -/

/-- A credit of an order and a user that are known is done if and only if it is not
    told to fail, the points are not negative, and there is room for them. -/
theorem credit_ok_iff (hb : s.balance? order.user = some b) (hcurrent : 0 ≤ b.current.value)
    (ho : s.order? order.id = some o) (amount : Amount) :
    (s.credit order amount).1 = .ok () ↔
      s.faults.credits = 0 ∧ 0 ≤ amount.value ∧ b.current.value + amount.value < Amount.brim := by
  by_cases hfault : s.faults.credits = 0
  · rw [credit_of_found hfault hb ho]
    by_cases hnonneg : 0 ≤ amount.value
    · rcases b.credit_of_nonneg hcurrent hnonneg with ⟨hbrim, hcredit⟩ | ⟨hlt, _, -, hcredit⟩
      · simp [hcredit, not_lt.2 hbrim]
      · simp [hcredit, hfault, hnonneg, hlt]
    · cases hcredit : b.credit amount with
      | ok b' => exact absurd (Balance.nonneg_of_credit hcredit (by simp [fails])) hnonneg
      | error e => simp [hnonneg]
  · rw [credit, if_pos (Nat.pos_of_ne_zero hfault)]
    simp [fails, hfault]

/-- Only a user who has a balance is credited. -/
theorem isSome_balance?_of_credit (h : (s.credit order amount).1 = .ok ()) :
    (s.balance? order.user).isSome := by
  rcases s.credit_spec order amount with ⟨b, _, hb, -⟩ | ⟨_, _, e, -⟩ | ⟨b, hb, -⟩
  · rw [hb]
    rfl
  · rw [e] at h
    cases h
  · rw [hb]
    rfl

/-- What a credit that is done leaves behind. -/
theorem credit_of_ok (hb : s.balance? order.user = some b) (ho : s.order? order.id = some o)
    (h : (s.credit order amount).1 = .ok ()) :
    ∃ current, b.current.add? amount = some current ∧
      (s.credit order amount).2.balance? order.user = some { b with current } ∧
      (s.credit order amount).2.order? order.id =
        some { o with status := .processed, accrual := some amount } := by
  rcases s.credit_spec order amount with ⟨c, c', hc, hcredit, -, e⟩ | ⟨_, _, e, -⟩ | ⟨_, -, -, e⟩
  · obtain rfl : c = b := by simpa [hb] using hc.symm
    obtain ⟨current, hadd, rfl⟩ := Balance.credit_eq_ok hcredit
    refine ⟨current, hadd, ?_, ?_⟩ <;> rw [e]
    · -- The order is written first, which leaves the balances as they are.
      rw [balance?_setBalance (s := s.updateOrder _ _) hb, if_pos rfl]
    · exact order?_updateOrder_self (fun _ => rfl) ho
  · rw [e] at h
    cases h
  · rw [e] at h
    cases h

/-! ## Orders that the store gave out -/

theorem operateAll_append (s : Store) (before after : List Operation) :
    s.operateAll (before ++ after) = (s.operateAll before).operateAll after :=
  List.foldl_append

theorem keeps_of_before {before : List Operation} (h : before <+: history) :
    (empty.operateAll before).Keeps (empty.operateAll history) := by
  obtain ⟨after, rfl⟩ := h
  rw [operateAll_append]
  exact keeps_operateAll _ after

/-- The store had the order at some point of its history. -/
def Had (history : List Operation) (order : Order) : Prop :=
  ∃ before, before <+: history ∧ order ∈ (empty.operateAll before).orders

/-- The order of that id was credited at some point of the history. -/
def Credited (history : List Operation) (id : Int) : Prop :=
  ∃ before order points, before ++ [.credit order points] <+: history ∧ Had before order ∧
    order.id = id ∧ ((empty.operateAll before).credit order points).1 = .ok ()

theorem Had.mono {history' : List Operation} (h : Had history order) (hle : history <+: history') :
    Had history' order := by
  obtain ⟨before, hbefore, horder⟩ := h
  exact ⟨before, hbefore.trans hle, horder⟩

/-- What the store had is still there, and still the same user's. -/
theorem Had.order? (h : Had history order) :
    ∃ o, (empty.operateAll history).order? order.id = some o ∧ o.user = order.user := by
  obtain ⟨before, hbefore, horder⟩ := h
  obtain ⟨o, ho, hid, huser, -⟩ := (keeps_of_before hbefore).exists_order horder
  have hnumbered : (empty.operateAll history).Numbered := Reachable.numbered ⟨history, rfl⟩
  exact ⟨o, hid ▸ order?_of_mem hnumbered.nodup_orders ho, huser⟩

/-- The user of an order that was credited has a balance. -/
theorem Credited.balance? (h : Credited history order.id) (horder : Had history order) :
    ∃ b, (empty.operateAll history).balance? order.user = some b := by
  obtain ⟨before, first, points, hcomplete, hfirst, hid, hcredit⟩ := h
  have hbefore : before <+: history := (List.prefix_append _ _).trans hcomplete
  obtain ⟨o, ho, huser⟩ := horder.order?
  obtain ⟨o', ho', huser'⟩ := (hfirst.mono hbefore).order?
  obtain rfl : o = o' := by simpa [hid, ho] using ho'
  -- The credit found a balance of the same user, and balances stay.
  have hkey : order.user ∈ (empty.operateAll before).balances.map (·.1) := by
    rw [← huser, huser', ← isSome_balance?_iff]
    exact isSome_balance?_of_credit hcredit
  have hsome : ((empty.operateAll history).balance? order.user).isSome :=
    isSome_balance?_iff.2 ((keeps_of_before hbefore).balances.subset hkey)
  exact Option.isSome_iff_exists.1 hsome

/-- After any history, an order that was credited before is credited again unless
    the credit is told to fail, or the points are negative, or overflow. What is
    done adds the points to the balance once more, and replaces the accrual; what
    is not done changes no row. -/
theorem credited_again (horder : Had history order) (hcredited : Credited history order.id)
    (amount : Amount) :
    let s := empty.operateAll history
    ∃ o b, s.order? order.id = some o ∧ s.balance? order.user = some b ∧
      ((s.credit order amount).1 = .ok () ↔ s.faults.credits = 0 ∧ 0 ≤ amount.value ∧
        b.current.value + amount.value < Amount.brim) ∧
      ((s.credit order amount).1 = .ok () → ∃ current, b.current.add? amount = some current ∧
        (s.credit order amount).2.balance? order.user = some { b with current } ∧
        (s.credit order amount).2.order? order.id =
          some { o with status := .processed, accrual := some amount }) ∧
      ((s.credit order amount).1 ≠ .ok () → (s.credit order amount).2.rows = s.rows) := by
  intro s
  obtain ⟨o, ho, -⟩ := horder.order?
  obtain ⟨b, hb⟩ := hcredited.balance? horder
  have hcurrent : 0 ≤ b.current.value := Reachable.current_nonneg ⟨history, rfl⟩ b hb
  exact ⟨o, b, ho, hb, credit_ok_iff hb hcurrent ho amount, credit_of_ok hb ho,
    rows_of_credit_ne_ok⟩

/-- An order earns ten points, and is then marked as a new one. -/
def creditedOnce : List Operation :=
  [.createUser "ann" "pw", .createOrder "18" 1 ⟨0, 0⟩,
    .credit ⟨1, 1, "18", .new, none, ⟨0, 0⟩⟩ (.of 10 0), .mark 1 .new]

/-- The order as it was first given out earns another five points. -/
theorem credited_again_marked :
    let order : Order := ⟨1, 1, "18", .new, none, ⟨0, 0⟩⟩
    let five : Amount := .of 5 0
    ((empty.operateAll creditedOnce).credit order five).1 = .ok () ∧
      ((empty.operateAll creditedOnce).credit order five).2.balance? 1 =
        some ⟨.of 15 0, .zero⟩ := by
  intro order five
  have horder : Had (creditedOnce.take 2) order :=
    ⟨creditedOnce.take 2, List.prefix_rfl, List.mem_singleton_self order⟩
  have hcredited : Credited creditedOnce order.id :=
    ⟨creditedOnce.take 2, order, .of 10 0, ⟨[.mark 1 .new], rfl⟩, horder, rfl, rfl⟩
  obtain ⟨o, b, -, hb, hiff, hdone, -⟩ :=
    credited_again (horder.mono (List.take_prefix 2 _)) hcredited five
  cases hb
  have hok := hiff.2 ⟨rfl, by decide, by decide⟩
  obtain ⟨current, hadd, hbalance, -⟩ := hdone hok
  have hsum : Amount.add? (.of 10 0) five = some (.of 15 0) := by decide
  obtain rfl := Option.some.inj (hadd.symm.trans hsum)
  exact ⟨hok, hbalance⟩

/-- The same credit, twice in a row, is done twice and counts twice. -/
theorem credited_twice :
    let order : Order := ⟨1, 1, "18", .new, none, ⟨0, 0⟩⟩
    let ten : Amount := .of 10 0
    let s := empty.operateAll [.createUser "ann" "pw", .createOrder "18" 1 ⟨0, 0⟩]
    let once := s.credit order ten
    let twice := once.2.credit order ten
    order ∈ s.orders ∧ once.1 = .ok () ∧ twice.1 = .ok () ∧
      once.2.balance? 1 = some ⟨ten, .zero⟩ ∧
      twice.2.balance? 1 = some ⟨.of 20 0, .zero⟩ := by
  exact ⟨List.mem_singleton_self _, rfl, rfl, rfl, rfl⟩

end Store
end Loyalty
