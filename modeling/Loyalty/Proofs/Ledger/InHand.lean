import Loyalty.Proofs.Ledger.Outcomes

/-!
# What becomes of an order in hand

An answer of the authority and the failures that the store is told decide what is reported
of an order in hand, and what the order becomes (`settle_in_hand`):

* a denial or an award that is written down is final;
* where the store does not take it (`Store.Declines`), and with every other answer, the
  order is new again;
* only where the store does not take that either does the order stay in hand.

Settling one order leaves all that is kept about others alone (`Store.Aside`), and its user's
balance too, unless it ends with a credit (`balances_settle`).
-/

namespace Loyalty

namespace Store

variable {s s' t : Store} {order : Order} {reply : Reply} {settlement : Settlement}

/-! ## What settling leaves alone -/

/-- The stores `s` and `s'` differ in the order at most, in the balance of its user and in the
    failures that are told. -/
structure Aside (s s' : Store) (order : Order) : Prop where
  ids : s'.orders.map (·.id) = s.orders.map (·.id)
  orders : ∀ id ≠ order.id, s'.order? id = s.order? id
  withdrawals : s'.withdrawals = s.withdrawals
  users : s'.users = s.users
  counters : (s'.lastOrder, s'.lastWithdrawal, s'.lastUser) =
    (s.lastOrder, s.lastWithdrawal, s.lastUser)
  owners : s'.balances.map (·.1) = s.balances.map (·.1)
  balances : ∀ user ≠ order.user, s'.balance? user = s.balance? user

namespace Aside

theorem trans (h : s.Aside s' order) (h' : s'.Aside t order) : s.Aside t order where
  ids := h'.ids.trans h.ids
  orders id hid := (h'.orders id hid).trans (h.orders id hid)
  withdrawals := h'.withdrawals.trans h.withdrawals
  users := h'.users.trans h.users
  counters := h'.counters.trans h.counters
  owners := h'.owners.trans h.owners
  balances user huser := (h'.balances user huser).trans (h.balances user huser)

theorem of_rows (h : s'.rows = s.rows) (order : Order) : s.Aside s' order := by
  rw [eq_of_rows h]
  exact ⟨rfl, fun _ _ => rfl, rfl, rfl, rfl, rfl, fun _ _ => rfl⟩

theorem updateOrder (s : Store) (order : Order) {f : Order → Order} (hf : ∀ o, (f o).id = o.id) :
    s.Aside (s.updateOrder order.id f) order where
  ids := map_id_updateOrder hf
  orders _ hid := order?_updateOrder_of_ne hf hid
  withdrawals := rfl
  users := rfl
  counters := rfl
  owners := rfl
  balances _ _ := rfl

theorem setBalance (s : Store) (order : Order) (b : Balance) :
    s.Aside (s.setBalance order.user b) order where
  ids := rfl
  orders _ _ := rfl
  withdrawals := rfl
  users := rfl
  counters := rfl
  owners := map_fst_setBalance s order.user b
  balances _ huser := balance?_setBalance_of_ne huser s b

end Aside

theorem aside_mark (s : Store) (order : Order) (status : OrderStatus) :
    s.Aside (s.mark order.id status).2 order := by
  rcases s.mark_spec order.id status with ⟨e, -, -⟩ | ⟨f, s', e, hrows⟩ <;> rw [e]
  · exact .updateOrder s order fun _ => rfl
  · exact .of_rows hrows order

theorem aside_write (s : Store) (order : Order) (settlement : Settlement) :
    s.Aside (s.write order settlement).2 order := by
  cases settlement with
  | credit points =>
    rw [write]
    rcases s.credit_spec order points with ⟨b, b', -, -, -, e⟩ | ⟨f, s', e, hrows⟩ | ⟨b, -, -, e⟩ <;>
      rw [e]
    · exact (Aside.updateOrder s order (by exact fun _ => rfl)).trans (.setBalance _ order b')
    · exact .of_rows hrows order
    · exact .of_rows rfl order
  | refuse => exact s.aside_mark order .invalid
  | giveBack => exact s.aside_mark order .new

theorem aside_settle (s : Store) (order : Order) (reply : Reply) :
    s.Aside (s.settle order reply).2 order := by
  have hwrite := s.aside_write order (.ofReply reply)
  rcases s.settle_snd order reply with e | e <;> rw [e]
  · exact hwrite
  · exact hwrite.trans (aside_mark _ order .new)

theorem balances_mark (s : Store) (id : Int) (status : OrderStatus) :
    (s.mark id status).2.balances = s.balances := by
  rcases s.mark_spec id status with ⟨e, -, -⟩ | ⟨f, s', e, hrows⟩ <;> rw [e]
  · rfl
  · exact balances_of_rows hrows

/-- No balance changes unless settling ends with a credit. -/
theorem balances_settle (h : ∀ points, (s.settle order reply).1 ≠ .ok (.credit points)) :
    (s.settle order reply).2.balances = s.balances := by
  have hwrite : (s.write order (.ofReply reply)).2.balances = s.balances := by
    cases hsettlement : Settlement.ofReply reply with
    | refuse => exact s.balances_mark order.id .invalid
    | giveBack => exact s.balances_mark order.id .new
    | credit points =>
      refine balances_of_rows (rows_of_credit_ne_ok fun hok => h points ?_)
      have hdone : s.write order (.ofReply reply) = (.ok (), (s.credit order points).2) := by
        rw [hsettlement, write, ← hok]
      rw [settle_of_written hdone, hsettlement]
  rcases s.settle_snd order reply with e | e <;> rw [e]
  · exact hwrite
  · exact (balances_mark _ order.id .new).trans hwrite

/-! ## What settling does -/

/-- Settling an order reports the outcome, and makes `order'` of it. -/
def Turns (s : Store) (order : Order) (reply : Reply) (outcome : Outcome Settlement)
    (order' : Order) : Prop :=
  (s.settle order reply).1 = outcome ∧ (s.settle order reply).2.order? order.id = some order'

theorem turns_of_eq {outcome : Outcome Settlement} {order' : Order}
    (h : s.settle order reply = (outcome, s')) (ho : s'.order? order.id = some order') :
    s.Turns order reply outcome order' := by
  rw [Turns, h]
  exact ⟨rfl, ho⟩

theorem turns_denied (ho : s.order? order.id = some order) (hdenies : reply.Denies)
    (hquiet : s.faults.marks .invalid = 0) :
    s.Turns order reply (.ok .refuse) { order with status := .invalid } := by
  have hasks := Settlement.ofReply_eq_refuse.2 hdenies
  exact turns_of_eq (settle_of_refuse hasks hquiet ho) (order?_setStatus ho .invalid)

theorem turns_awarded {points current : Amount} {b : Balance} (ho : s.order? order.id = some order)
    (hawards : reply.Awards points) (hquiet : s.faults.credits = 0)
    (hb : s.balance? order.user = some b) (hsum : b.current.add? points = some current) :
    s.Turns order reply (.ok (.credit points))
        { order with status := .processed, accrual := some points } ∧
      (s.settle order reply).2.balance? order.user = some { b with current } := by
  obtain ⟨r, -, -, -, hnonneg⟩ := id hawards
  have hcredit : b.credit points = .ok { b with current } := by
    rw [Balance.credit, Amount.checkCredit_eq_ok.2 hnonneg]
    simp only [hsum]
  have hsettle : s.settle order reply =
      (.ok (.credit points), s.setCredited order points { b with current }) :=
    settle_of_credit (Settlement.ofReply_eq_credit.2 hawards) hquiet hb ho hcredit
  refine ⟨turns_of_eq hsettle (order?_setCredited ho points _), ?_⟩
  rw [hsettle, setCredited, balance?_setBalance (s := s.updateOrder _ _) hb, if_pos rfl]

theorem turns_declined {f : Failure} (ho : s.order? order.id = some order)
    (hdeclines : s.Declines order reply f) (hquiet : s.faults.marks .new = 0) :
    s.Turns order reply (fails f) { order with status := .new } := by
  obtain ⟨hfinal, s', hwrite, hrows, hnew⟩ := hdeclines.write
  have ho' : s'.order? order.id = some order := (order?_of_rows hrows order.id).trans ho
  exact turns_of_eq (settle_of_refused hwrite hfinal (hnew.trans hquiet) ho')
    (order?_setStatus ho' .new)

theorem turns_kept (ho : s.order? order.id = some order)
    (hnew : Settlement.ofReply reply = .giveBack ∨ ∃ f, s.Declines order reply f)
    (htold : 0 < s.faults.marks .new) :
    s.Turns order reply (fails (.internal (.markRefused order.id .new))) order := by
  rcases hnew with hback | ⟨f, hdeclines⟩
  · have hwrite : s.write order (.ofReply reply) =
        (fails (.internal (.markRefused order.id .new)), s.dropMarkFault .new) := by
      rw [hback]
      exact release_of_told htold order
    have hsettle : s.settle order reply =
        (fails (.internal (.markRefused order.id .new)), s.dropMarkFault .new) := by
      simp only [settle, hwrite, fails, if_pos hback]
    exact turns_of_eq hsettle ho
  · obtain ⟨hfinal, s', hwrite, hrows, hnew⟩ := hdeclines.write
    exact turns_of_eq (settle_of_refused_again hwrite hfinal (hnew ▸ htold))
      ((order?_of_rows hrows order.id).trans ho)

/-- What an answer makes of an order in hand, for every answer and whatever the store is told
    to fail, where the sum of the balance does not overflow. -/
theorem settle_in_hand (hs : s.Reachable) (horder : order ∈ s.orders)
    (hinHand : order.status = .processing) (reply : Reply) :
    (reply.Denies → s.faults.marks .invalid = 0 →
      s.Turns order reply (.ok .refuse) { order with status := .invalid }) ∧
    (∀ points b current, reply.Awards points → s.faults.credits = 0 →
      s.balance? order.user = some b → b.current.add? points = some current →
      s.Turns order reply (.ok (.credit points))
          { order with status := .processed, accrual := some points } ∧
        (s.settle order reply).2.balance? order.user = some { b with current }) ∧
    (¬ reply.Denies → (∀ points, ¬ reply.Awards points) → s.faults.marks .new = 0 →
      s.Turns order reply (.ok .giveBack) { order with status := .new }) ∧
    (∀ f, s.Declines order reply f → s.faults.marks .new = 0 →
      s.Turns order reply (fails f) { order with status := .new }) ∧
    (((¬ reply.Denies ∧ ∀ points, ¬ reply.Awards points) ∨ ∃ f, s.Declines order reply f) →
      0 < s.faults.marks .new →
      s.Turns order reply (fails (.internal (.markRefused order.id .new)))
        { order with status := .processing }) ∧
    s.Aside (s.settle order reply).2 order ∧
    ((∀ points, (s.settle order reply).1 ≠ .ok (.credit points)) →
      (s.settle order reply).2.balances = s.balances) := by
  have ho : s.order? order.id = some order := order?_of_mem hs.numbered.nodup_orders horder
  have hkept : { order with status := .processing } = order := by rw [← hinHand]
  rw [hkept]
  refine ⟨turns_denied ho, fun _ _ _ => turns_awarded ho, fun hdenies hawards hquiet => ?_,
    fun _ => turns_declined ho, fun hnew => ?_, s.aside_settle order reply, balances_settle⟩
  · have hasks := Settlement.ofReply_eq_giveBack.2 ⟨hdenies, hawards⟩
    exact turns_of_eq (settle_of_giveBack hasks hquiet ho) (order?_setStatus ho .new)
  · exact turns_kept ho (hnew.imp_left Settlement.ofReply_eq_giveBack.2)

/-- An order is in hand, and its credit is told to fail once. -/
def uncredited : List Operation :=
  [.createUser "ann" "pw", .createOrder "18" 1 ⟨0, 0⟩, .mark 1 .processing, .failCredits 1]

/-- The order is new again, though the authority awards it three points. -/
theorem settle_in_hand_uncredited :
    let s := empty.operateAll uncredited
    let order : Order := ⟨1, 1, "18", .processing, none, ⟨0, 0⟩⟩
    let reply : Reply := .ok ⟨"18", .processed, some (.of 3 0)⟩
    order ∈ s.orders ∧
      s.Turns order reply (fails (.internal (.creditRefused 1))) { order with status := .new } ∧
      (s.settle order reply).2.balance? 1 = some .zero := by
  intro s order reply
  have horder : order ∈ s.orders :=
    List.mem_of_getElem? (show s.orders[0]? = some order from rfl)
  have hdeclines : s.Declines order reply (.internal (.creditRefused order.id)) :=
    .award (.of 3 0) ⟨_, rfl, rfl, rfl, by decide⟩ (by decide)
  obtain ⟨-, -, -, hdeclined, -, -, hbalances⟩ :=
    settle_in_hand ⟨uncredited, rfl⟩ horder rfl reply
  have hturns := hdeclined _ hdeclines rfl
  have hfails : ∀ points, (s.settle order reply).1 ≠ .ok (.credit points) := by
    rw [hturns.1]
    simp
  refine ⟨horder, hturns, ?_⟩
  rw [balance?, hbalances hfails]
  rfl

end Store
end Loyalty
