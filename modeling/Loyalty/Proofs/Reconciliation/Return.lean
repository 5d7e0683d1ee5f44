import Loyalty.Proofs.Reconciliation.Ownership
import Loyalty.Proofs.Reconciliation.Turn

/-!
# Nothing is left in flight

When a reconciliation returns, nothing is in flight any more. So no order is
processing, unless it was lost; and an order that was claimed and not settled
is new again, with the accrual that it had before (`nothing_left`).
-/

namespace Loyalty.Reconciliation

/-- The order was claimed. -/
def Claimed (log : List Entry) (id : Int) : Prop :=
  ∃ order : Order, order.id = id ∧ (.mark order .processing, .ok ()) ∈ log

/-- The order was refused or credited. -/
def Settled (log : List Entry) (id : Int) : Prop :=
  ∃ order : Order, order.id = id ∧ ((.mark order .invalid, .ok ()) ∈ log ∨
    ∃ points, (.credit order points, .ok ()) ∈ log)

/-- While it is not settled, an order keeps its accrual, and is new or processing
    once it was claimed. -/
def Unsettled (log : List Entry) (id : Int) (accrual : Option Amount) (order? : Option Order) :
    Prop :=
  ¬ Settled log id → order?.bind (·.accrual) = accrual ∧
    (Claimed log id → ∃ o, order? = some o ∧ (o.status = .new ∨ o.status = .processing))

variable {s s' : System} {log : List Entry} {id : Int} {accrual : Option Amount}

theorem Settled.append (h : Settled log id) (entries : List Entry) :
    Settled (log ++ entries) id := by
  obtain ⟨order, hid, hsettled⟩ := h
  refine ⟨order, hid, hsettled.imp (List.mem_append_left entries) ?_⟩
  exact fun ⟨points, hp⟩ => ⟨points, List.mem_append_left entries hp⟩

/-- What is done to other orders claims nothing of this one. -/
theorem Claimed.of_append {r : Option Entry} (h : Claimed (log ++ r.toList) id)
    (other : ∀ u, r = some (u, .ok ()) → u.order.id ≠ id) : Claimed log id := by
  obtain ⟨order, hid, hmem⟩ := h
  refine ⟨order, hid, ?_⟩
  rcases List.mem_append.1 hmem with hmem | hmem
  · exact hmem
  · exact absurd hid (other _ (Option.mem_toList.1 hmem))

theorem Unsettled.turn {order? order?' : Option Order} {r : Option Entry}
    (h : Unsettled log id accrual order?) (hturn : Turn id order? order?' r) :
    Unsettled (log ++ r.toList) id accrual order?' := by
  -- What is not settled after the turn was not settled before.
  intro hopen
  obtain ⟨haccrual, hclaimed⟩ := h fun hsettled => hopen (hsettled.append r.toList)
  cases hturn with
  | stays _ _ other => exact ⟨haccrual, fun hc => hclaimed (hc.of_append other)⟩
  | comes order new none => exact ⟨none.trans haccrual, fun _ => ⟨order, rfl, .inl new⟩⟩
  | claimed order id_eq new => exact ⟨haccrual, fun _ => ⟨_, rfl, .inr rfl⟩⟩
  | released order id_eq processing => exact ⟨haccrual, fun _ => ⟨_, rfl, .inl rfl⟩⟩
  | refused order id_eq processing =>
    exact absurd ⟨order, id_eq, .inl (by simp)⟩ hopen
  | credited order points id_eq processing =>
    exact absurd ⟨order, id_eq, .inr ⟨points, by simp⟩⟩ hopen

/-- Nothing is in flight where a reconciliation has returned. -/
theorem inFlight_of_returned {failure : Option Stop} (hs : s.Orderly)
    (hp : s.poller = .returned failure) : s.inFlight = [] := by
  rw [System.Orderly, hp] at hs
  rw [System.inFlight, hp, hs.2, System.inHand_of_isOver hs.1]
  rfl

theorem unsettled_of_run {t : System} {setup : Setup} {signal : Shutdown} {moves : List Move}
    (ht : Custody t) (hrun : t.run? (.begin setup signal :: moves) = some s) (id : Int) :
    Unsettled (t.log (.begin setup signal :: moves)) id ((t.store.order? id).bind (·.accrual))
      (s.store.order? id) := by
  refine (ht.begin_induct (P := fun log s =>
      Unsettled log id ((t.store.order? id).bind (·.accrual)) (s.store.order? id)) hrun
    (fun t' hbegin _ => ?_) fun hcustody hunsettled hstep =>
      hunsettled.turn (hcustody.turn hstep id)).2
  obtain ⟨hkept, -⟩ := System.begin?_spec hbegin
  rw [hkept]
  exact ⟨rfl, fun ⟨_, _, hmem⟩ => absurd hmem List.not_mem_nil⟩

/-- When a reconciliation has returned, with or without a failure, and no order
    failed to be made new again and no credit overflowed, then no order is
    processing, and every order that was claimed and not settled is new, with
    the accrual that it had before. -/
theorem nothing_left {store : Store} {before moves : List Move} {t : System} {setup : Setup}
    {signal : Shutdown} {failure : Option Stop} (hstore : store.Reachable)
    (hbefore : (System.start store).run? before = some t)
    (hrun : t.run? (.begin setup signal :: moves) = some s)
    (hreturned : s.poller = .returned failure)
    (hnew : ∀ order r, (.mark order .new, r) ∈ t.log (.begin setup signal :: moves) → r = .ok ())
    (hoverflow : ∀ u, (u, .error .overflow) ∉ t.log (.begin setup signal :: moves)) :
    (∀ o ∈ s.store.orders, o.status ≠ .processing) ∧
    ∀ id, Claimed (t.log (.begin setup signal :: moves)) id →
      ¬ Settled (t.log (.begin setup signal :: moves)) id →
      ∃ o, s.store.order? id = some o ∧ o.status = .new ∧
        o.accrual = (t.store.order? id).bind (·.accrual) := by
  have ht : Custody t := .of_run hstore hbefore
  obtain ⟨hcustody, -, haccounted⟩ := accounted_of_run ht hrun
  have hempty : s.inFlight = [] := inFlight_of_returned hcustody.orderly hreturned
  have hnone : ∀ id o, s.store.order? id = some o → o.status ≠ .processing := by
    intro id o ho hstatus
    rcases haccounted with hcovered | ⟨-, -, order, e, hmem⟩
    · -- It would be in flight, where nothing is left, or lost, which nothing is.
      rcases hcovered id o ho hstatus with hmem | ⟨order, -, ⟨e, hmem⟩ | ⟨points, hmem⟩⟩
      · rw [hempty] at hmem
        exact List.not_mem_nil hmem
      · cases hnew order _ hmem
      · exact hoverflow _ hmem
    · cases hnew order _ hmem
  refine ⟨fun o ho => ?_, fun id hclaimed hopen => ?_⟩
  · exact hnone o.id o (Store.order?_of_mem hcustody.numbered.nodup_orders ho)
  · obtain ⟨haccrual, hstatus⟩ := unsettled_of_run ht hrun id hopen
    obtain ⟨o, ho, hnew' | hprocessing⟩ := hstatus hclaimed
    · rw [ho] at haccrual
      exact ⟨o, ho, hnew', haccrual⟩
    · exact absurd hprocessing (hnone id o ho)

/-- The only worker sees the shutdown before it takes the order that waits for
    it, and the poller makes the order new again. -/
def queuedShutdown : List Move :=
  [.begin { Setup.standard with workers := 1 } .start, .poll, .poll, .poll, .poll, .poll,
    .requestShutdown, .leave, .worker 0 .quit, .poll, .poll, .poll, .poll]

theorem nothing_left_queued : ∃ t s : System,
    (System.start .empty).run?
      [.client (.register 1 [] "ann" "pw"), .client (.submit "18" 1 ⟨0, 0⟩)] = some t ∧
    t.run? queuedShutdown = some s ∧ s.poller = .returned none ∧ s.stats.dispatched = 1 ∧
    ∀ o ∈ s.store.orders, o.status ≠ .processing := by
  obtain ⟨t, hbefore⟩ : ∃ t : System, (System.start .empty).run?
      [.client (.register 1 [] "ann" "pw"), .client (.submit "18" 1 ⟨0, 0⟩)] = some t := ⟨_, rfl⟩
  obtain ⟨s, hrun, hreturned, hdispatched⟩ : ∃ s : System, t.run? queuedShutdown = some s ∧
      s.poller = .returned none ∧ s.stats.dispatched = 1 := by
    cases hbefore
    exact ⟨_, rfl, rfl, rfl⟩
  have hlog : (t.log queuedShutdown).map Prod.snd = [.ok (), .ok ()] := by
    cases hbefore
    rfl
  have hok : ∀ u r, (u, r) ∈ t.log queuedShutdown → r = .ok () := by
    intro u r hmem
    have hr : r ∈ (t.log queuedShutdown).map Prod.snd := List.mem_map.2 ⟨_, hmem, rfl⟩
    rw [hlog] at hr
    simpa using hr
  have hleft := nothing_left Store.reachable_empty hbefore hrun hreturned (fun order r => hok _ r)
    fun u hmem => by cases hok u _ hmem
  exact ⟨t, s, hbefore, hrun, hreturned, hdispatched, hleft.1⟩

end Loyalty.Reconciliation
