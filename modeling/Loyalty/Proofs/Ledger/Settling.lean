import Loyalty.Proofs.Ledger.Overdraft

/-!
# What an answer makes of an order

While no operation is told to fail (`Store.Quiet`), and the user of the order has a
balance, the order becomes what the answer of the authority makes of it, and is
no longer in hand. There is one exception: points that would bring the balance to
the brim (`Settlement.Overfills`) break the credit off, and with it all that
would make the order new again. It then stays in hand.

* `credit_of_found`, `mark_of_found`: what the store does that is not told to fail; with
  `credit_of_told`, `credit_of_no_balance` and the like, what comes of every credit and
  every mark;
* `settle_of_quiet`: settling by any answer;
* `settled_unless_overfull`: the same for every store to which deeds lead.
-/

namespace Loyalty

/-- The status that an order gets. -/
def Settlement.status : Settlement → OrderStatus
  | credit _ => .processed
  | refuse => .invalid
  | giveBack => .new

/-- There is no room for the points on a balance. -/
def Settlement.Overfills (b : Balance) : Settlement → Prop
  | credit points => Amount.brim ≤ b.current.value + points.value
  | refuse | giveBack => False

instance (b : Balance) : (settlement : Settlement) → Decidable (settlement.Overfills b)
  | .credit points => inferInstanceAs (Decidable (Amount.brim ≤ b.current.value + points.value))
  | .refuse | .giveBack => inferInstanceAs (Decidable False)

theorem Settlement.status_ne_processing (settlement : Settlement) :
    settlement.status ≠ .processing := by
  cases settlement <;> simp [status]

/-- No answer makes a credit of less than nothing. -/
theorem Settlement.nonneg_of_ofReply {reply : Reply} {points : Amount}
    (h : ofReply reply = credit points) : 0 ≤ points.value := by
  cases reply with
  | error failure => cases failure <;> cases h
  | ok r =>
    cases hstatus : r.status <;> simp only [ofReply, hstatus] at h
    case processed =>
      -- Points that do not pass the check are not credited.
      cases hcheck : r.points.checkCredit with
      | ok u =>
        rw [hcheck, Except.isOk, Except.toBool, if_pos rfl] at h
        cases h
        exact Amount.checkCredit_eq_ok.1 hcheck
      | error cause =>
        rw [hcheck] at h
        cases h
    all_goals cases h

namespace Balance

variable {b : Balance} {amount : Amount}

/-- A credit of no less than nothing is done unless there is no room for it. -/
theorem credit_of_nonneg (hb : 0 ≤ b.current.value) (hamount : 0 ≤ amount.value) :
    (Amount.brim ≤ b.current.value + amount.value ∧ b.credit amount = .error .overflow) ∨
      (b.current.value + amount.value < Amount.brim ∧ ∃ current,
        b.current.add? amount = some current ∧ b.credit amount = .ok { b with current }) := by
  have hcheck : amount.checkCredit = .ok () := Amount.checkCredit_eq_ok.2 hamount
  have hnone := Amount.add?_eq_none_iff (Int.add_nonneg hb hamount)
  cases hadd : b.current.add? amount with
  | none => exact .inl ⟨hnone.1 hadd, by simp only [credit, hcheck, hadd]⟩
  | some current =>
    refine .inr ⟨?_, current, rfl, by simp only [credit, hcheck, hadd]⟩
    rw [← not_le, ← hnone, hadd]
    simp

end Balance

namespace Store

variable {s : Store} {order o : Order} {id : Int} {b : Balance}

/-- No operation is told to fail. -/
structure Quiet (s : Store) : Prop where
  credits : s.faults.credits = 0
  marks : ∀ status, s.faults.marks status = 0

theorem mark_of_found {status : OrderStatus} (hfault : s.faults.marks status = 0)
    (ho : s.order? id = some o) (hstatus : status ≠ .processed) :
    s.mark id status = (.ok (), s.updateOrder id fun o => { o with status }) := by
  have hcheck : status.checkMark = .ok status := if_neg hstatus
  have hfound : s.orders.any (·.id = id) = true := by
    simpa using isSome_order?_iff.1 (ho ▸ rfl)
  simp only [mark, hcheck, hfault, gt_iff_lt, Nat.lt_irrefl, if_false, hfound, if_true]

/-- A mark that is told to fail does, unless the status is none that can be set. -/
theorem mark_of_told {status : OrderStatus} (htold : 0 < s.faults.marks status)
    (hstatus : status ≠ .processed) (id : Int) :
    s.mark id status = (fails (.internal (.markRefused id status)), s.dropMarkFault status) := by
  have hcheck : status.checkMark = .ok status := if_neg hstatus
  simp only [mark, hcheck, gt_iff_lt, htold, if_true]

theorem credit_of_told (htold : 0 < s.faults.credits) (order : Order) (amount : Amount) :
    s.credit order amount = (fails (.internal (.creditRefused order.id)), s.dropCreditFault) :=
  if_pos htold

theorem mark_of_unknown {status : OrderStatus} (hfault : s.faults.marks status = 0)
    (ho : s.order? id = none) (hstatus : status ≠ .processed) :
    s.mark id status = (fails (.orderNotFound (toString id)), s) := by
  have hcheck : status.checkMark = .ok status := if_neg hstatus
  have hunknown : ¬ s.orders.any (·.id = id) = true := by
    simpa [order?, List.find?_eq_none] using ho
  simp only [mark, hcheck, hfault, gt_iff_lt, Nat.lt_irrefl, if_false, if_neg hunknown]

theorem credit_of_found (hfault : s.faults.credits = 0) (hb : s.balance? order.user = some b)
    (ho : s.order? order.id = some o) (amount : Amount) :
    s.credit order amount =
      match b.credit amount with
      | .error e => (.error e, s)
      | .ok b' => (.ok (), (s.updateOrder order.id fun o =>
          { o with status := .processed, accrual := some amount }).setBalance order.user b') := by
  have hfound : s.orders.any (·.id = order.id) = true := by
    simpa using isSome_order?_iff.1 (ho ▸ rfl)
  cases hcredit : b.credit amount <;> simp [credit, hfault, hb, hfound, hcredit]

theorem credit_of_no_balance (hfault : s.faults.credits = 0) (hb : s.balance? order.user = none)
    (amount : Amount) :
    s.credit order amount = (fails (.userNotFound (toString order.user)), s) := by
  simp only [credit, hfault, gt_iff_lt, Nat.lt_irrefl, if_false, hb]

theorem credit_of_unknown (hfault : s.faults.credits = 0) (hb : s.balance? order.user = some b)
    (ho : s.order? order.id = none) (amount : Amount) :
    s.credit order amount = (fails (.orderNotFound (toString order.id)), s) := by
  have hunknown : ¬ s.orders.any (·.id = order.id) = true := by
    simpa [order?, List.find?_eq_none] using ho
  simp only [credit, hfault, gt_iff_lt, Nat.lt_irrefl, if_false, hb, if_neg hunknown]

/-- What is written down of an order that was asked for is its status. -/
theorem write_of_quiet (hquiet : s.Quiet) (hb : s.balance? order.user = some b)
    (hcurrent : 0 ≤ b.current.value) (ho : s.order? order.id = some o) {settlement : Settlement}
    (hnonneg : ∀ points, settlement = .credit points → 0 ≤ points.value) :
    (settlement.Overfills b ∧ s.write order settlement = (.error .overflow, s)) ∨
      (¬ settlement.Overfills b ∧ ∃ s' o', s.write order settlement = (.ok (), s') ∧
        s'.order? order.id = some o' ∧ o'.status = settlement.status) := by
  cases settlement with
  | credit points =>
    have hwrite := credit_of_found hquiet.credits hb ho points
    rcases b.credit_of_nonneg hcurrent (hnonneg points rfl) with
      ⟨hbrim, hcredit⟩ | ⟨hlt, current, -, hcredit⟩ <;> rw [hcredit] at hwrite
    · exact .inl ⟨hbrim, hwrite⟩
    · refine .inr ⟨not_le.2 hlt, _, _, hwrite, order?_updateOrder_self ?_ ho, rfl⟩
      exact fun _ => rfl
  | refuse =>
    have hwrite := mark_of_found (hquiet.marks .invalid) ho (by decide)
    refine .inr ⟨id, _, _, hwrite, order?_updateOrder_self ?_ ho, rfl⟩
    exact fun _ => rfl
  | giveBack =>
    have hwrite := mark_of_found (hquiet.marks .new) ho (by decide)
    refine .inr ⟨id, _, _, hwrite, order?_updateOrder_self ?_ ho, rfl⟩
    exact fun _ => rfl

/-- An answer settles an order, or breaks off and changes nothing. -/
theorem settle_of_quiet (hquiet : s.Quiet) (hb : s.balance? order.user = some b)
    (hcurrent : 0 ≤ b.current.value) (ho : s.order? order.id = some o) (reply : Reply) :
    ((Settlement.ofReply reply).Overfills b ∧ s.settle order reply = (.error .overflow, s)) ∨
      (¬ (Settlement.ofReply reply).Overfills b ∧
        ∃ s' o', s.settle order reply = (.ok (.ofReply reply), s') ∧
          s'.order? order.id = some o' ∧ o'.status = (Settlement.ofReply reply).status) := by
  rcases write_of_quiet hquiet hb hcurrent ho fun _ => Settlement.nonneg_of_ofReply with
    ⟨hover, hwrite⟩ | ⟨hroom, s', o', hwrite, ho', hstatus⟩
  · exact .inl ⟨hover, by rw [settle, hwrite]⟩
  · exact .inr ⟨hroom, s', o', by rw [settle, hwrite], ho', hstatus⟩

/-- After any deeds, an order in hand whose user has a balance is settled by any
    answer as the answer says, and is in hand no more, if the points do not
    overfill the balance. If they do, settling breaks off and leaves the order in
    hand. -/
theorem settled_unless_overfull (deeds : List Deed) {order : Order} {b : Balance}
    (horder : order ∈ (empty.performAll deeds).orders) (hinHand : order.status = .processing)
    (hb : (empty.performAll deeds).balance? order.user = some b)
    (hquiet : (empty.performAll deeds).Quiet) (reply : Reply) :
    let s := empty.performAll deeds
    let settlement := Settlement.ofReply reply
    (¬ settlement.Overfills b → ∃ s' o', s.settle order reply = (.ok settlement, s') ∧
      s'.order? order.id = some o' ∧ o'.status = settlement.status ∧ o'.status ≠ .processing) ∧
    (settlement.Overfills b → ∃ o', s.settle order reply = (.error .overflow, s) ∧
      s.order? order.id = some o' ∧ o'.status = .processing) := by
  intro s settlement
  have hs : s.Reachable := reachable_performAll deeds
  have ho : s.order? order.id = some order := order?_of_mem hs.numbered.nodup_orders horder
  rcases settle_of_quiet hquiet hb (hs.current_nonneg b hb) ho reply with
    ⟨hover, hsettle⟩ | ⟨hroom, s', o', hsettle, ho', hstatus⟩
  · exact ⟨fun hroom => absurd hover hroom, fun _ => ⟨order, hsettle, ho, hinHand⟩⟩
  · refine ⟨fun _ => ⟨s', o', hsettle, ho', hstatus, ?_⟩, fun hover => absurd hover hroom⟩
    rw [hstatus]
    exact settlement.status_ne_processing

/-- An order earns as many points as 96 bits can count, and another order of the
    same user is in hand. -/
def overfull : List Deed :=
  let most : Amount := .of 79228162514264337593543950335 0
  let first : Order := ⟨1, 1, "18", .processing, none, ⟨0, 0⟩⟩
  let second : Order := ⟨2, 1, "26", .new, none, ⟨0, 0⟩⟩
  [.register 1 [] "ann" "pw", .submit "18" 1 ⟨0, 0⟩, .claim first,
    .settle first (.ok ⟨"18", .processed, some most⟩), .submit "26" 1 ⟨0, 0⟩, .claim second]

/-- Four tenths of a point are rounded away, and the order is settled. -/
theorem settled_unless_overfull_rounded :
    let second : Order := ⟨2, 1, "26", .processing, none, ⟨0, 0⟩⟩
    let points : Amount := .of 4 1
    ∃ s' o', (empty.performAll overfull).settle second (.ok ⟨"26", .processed, some points⟩) =
        (.ok (.credit points), s') ∧
      s'.order? 2 = some o' ∧ o'.status = .processed := by
  intro second points
  have hsecond : second ∈ (empty.performAll overfull).orders :=
    List.mem_of_getElem? (show (empty.performAll overfull).orders[1]? = some second from rfl)
  obtain ⟨s', o', hsettle, ho', hstatus, -⟩ := (settled_unless_overfull overfull hsecond rfl rfl
    ⟨rfl, fun _ => rfl⟩ (.ok ⟨"26", .processed, some points⟩)).1 (by decide)
  exact ⟨s', o', hsettle, ho', hstatus⟩

/-- Half a point is too much: nothing is reported and nothing reverted, and the
    order is still in hand. -/
theorem left_in_hand :
    let s := empty.performAll overfull
    let settled := s.settle ⟨2, 1, "26", .processing, none, ⟨0, 0⟩⟩
      (.ok ⟨"26", .processed, some (.of 5 1)⟩)
    s.order? 2 = some ⟨2, 1, "26", .processing, none, ⟨0, 0⟩⟩ ∧ (s.balance? 1).isSome ∧
      s.faults.credits = 0 ∧ (∀ status, s.faults.marks status = 0) ∧
      settled.1 = .error .overflow ∧
      settled.2.order? 2 = some ⟨2, 1, "26", .processing, none, ⟨0, 0⟩⟩ := by
  refine ⟨rfl, rfl, rfl, fun _ => rfl, rfl, rfl⟩

end Store
end Loyalty
