import Loyalty.Proofs.Reconciliation.Clients
import Loyalty.Proofs.Reconciliation.Effect

/-!
# Custody of orders

The orders in flight have distinct ids, and the store has each of them as it is
there, as processing; those ahead of the poller it has as they are there too,
as new (`Store.Holds`). Every move keeps this (`Custody.step?`): what is claimed
was ahead and goes in flight, what is released or settled was in flight and
leaves it, and users change no order that is there. So an order that the poller
took note of at the beginning of a cycle is still new when its turn comes.
-/

namespace Loyalty

open Reconciliation

namespace Store

variable {s s' : Store} {status : OrderStatus} {l l' : List Order} {o : Order} {u : Update}
  {r : Outcome Unit} {id : Int}

/-- The store has these orders as they are, of distinct ids and all of that
    status. -/
structure Holds (s : Store) (status : OrderStatus) (l : List Order) : Prop where
  distinct : (l.map (·.id)).Nodup
  stored : ∀ o ∈ l, s.order? o.id = some o
  status_eq : ∀ o ∈ l, o.status = status

namespace Holds

theorem nil (s : Store) (status : OrderStatus) : s.Holds status [] :=
  ⟨List.nodup_nil, by simp, by simp⟩

/-- A store has the orders that it is asked for. -/
theorem ordersIn (hs : s.Numbered) (status : OrderStatus) : s.Holds status (s.ordersIn status) := by
  refine ⟨?_, fun o ho => ?_, fun o ho => ?_⟩
  · exact hs.nodup_orders.sublist (List.filter_sublist.map _)
  · exact order?_of_mem hs.nodup_orders (List.mem_of_mem_filter ho)
  · simpa using (List.mem_filter.1 ho).2

theorem perm (h : s.Holds status l) (hl : l'.Perm l) : s.Holds status l' :=
  ⟨(hl.map _).nodup_iff.2 h.distinct, fun o ho => h.stored o (hl.mem_iff.1 ho),
    fun o ho => h.status_eq o (hl.mem_iff.1 ho)⟩

theorem tail (h : s.Holds status (o :: l)) : s.Holds status l :=
  ⟨(List.nodup_cons.1 h.distinct).2, fun p hp => h.stored p (List.mem_cons_of_mem o hp),
    fun p hp => h.status_eq p (List.mem_cons_of_mem o hp)⟩

theorem cons (h : s.Holds status l) (ho : s.order? o.id = some o) (hstatus : o.status = status)
    (hne : ∀ p ∈ l, p.id ≠ o.id) : s.Holds status (o :: l) := by
  refine ⟨List.nodup_cons.2 ⟨?_, h.distinct⟩, ?_, ?_⟩
  · rintro hid
    obtain ⟨p, hp, hpo⟩ := List.mem_map.1 hid
    exact hne p hp hpo
  · exact List.forall_mem_cons.2 ⟨ho, h.stored⟩
  · exact List.forall_mem_cons.2 ⟨hstatus, h.status_eq⟩

theorem id_ne_head (h : s.Holds status (o :: l)) : ∀ p ∈ l, p.id ≠ o.id := by
  intro p hp hid
  have hfresh : o.id ∉ l.map (·.id) := (List.nodup_cons.1 h.distinct).1
  exact hfresh (List.mem_map.2 ⟨p, hp, hid⟩)

/-- An order of another status is none of them. -/
theorem id_ne (h : s.Holds status l) (ho : s.order? id = some o) (hstatus : o.status ≠ status) :
    ∀ p ∈ l, p.id ≠ id := by
  rintro p hp rfl
  have hpo : p = o := by simpa [h.stored p hp] using ho
  exact hstatus (hpo ▸ h.status_eq p hp)

theorem congr (h : s.Holds status l)
    (hs : ∀ o ∈ l, s.order? o.id = some o → s'.order? o.id = some o) : s'.Holds status l :=
  ⟨h.distinct, fun o ho => hs o ho (h.stored o ho), h.status_eq⟩

theorem of_rows (h : s.Holds status l) (hr : s'.rows = s.rows) : s'.Holds status l :=
  h.congr fun o _ ho => order?_of_rows hr o.id ▸ ho

/-- An update of another order leaves them as they are. -/
theorem update (h : s.Holds status l) (hu : u.apply s = (r, s'))
    (hne : ∀ p ∈ l, p.id ≠ u.order.id) : s'.Holds status l := by
  cases r with
  | error e => exact h.of_rows (Update.rows_of_apply_error hu)
  | ok _ =>
    refine h.congr fun o ho hstored => ?_
    rw [Update.order?_of_apply_ok hu, if_neg (hne o ho), hstored]

end Holds
end Store

namespace Reconciliation

variable {s s' : System} {m : Move} {log : List Entry} {r : Option Entry}

/-- Orders in flight are processing, orders ahead are new, and both are in the
    store as they are. -/
structure Custody (s : System) : Prop where
  orderly : s.Orderly
  numbered : s.store.Numbered
  inFlight : s.store.Holds .processing s.inFlight
  ahead : s.store.Holds .new s.ahead

namespace Custody

theorem start {store : Store} (h : store.Numbered) : Custody (.start store) :=
  ⟨⟨rfl, rfl⟩, h, .nil store .processing, .nil store .new⟩

/-- An update of an order in flight leaves what is ahead of the poller. -/
theorem ahead_update {u : Update} {store : Store} {o : Outcome Unit} (hs : Custody s)
    (hu : u.apply s.store = (o, store)) (hmem : u.order ∈ s.inFlight) :
    store.Holds .new s.ahead := by
  refine hs.ahead.update hu (hs.ahead.id_ne (hs.inFlight.stored _ hmem) ?_)
  rw [hs.inFlight.status_eq _ hmem]
  decide

/-- What is ahead of the poller stays there, or a cycle ends or begins. -/
theorem ahead_of_or {l : List Order} {store : Store} (hstore : store.Numbered)
    (hs : store.Holds .new s.ahead) (hl : l = s.ahead ∨ l = [] ∨ l = store.ordersIn .new) :
    store.Holds .new l := by
  rcases hl with rfl | rfl | rfl
  · exact hs
  · exact .nil store .new
  · exact .ordersIn hstore .new

/-- An order that leaves the orders in flight leaves the others there. -/
theorem inFlight_update {u : Update} {store : Store} {o : Outcome Unit} {rest : List Order}
    (hs : Custody s) (hu : u.apply s.store = (o, store))
    (hrest : s.inFlight.Perm (u.order :: rest)) : store.Holds .processing rest := by
  have hcons := hs.inFlight.perm hrest.symm
  exact hcons.tail.update hu hcons.id_ne_head

theorem claim {order : Order} (hs : Custody s) (ho : s'.Orderly)
    (hahead : s.ahead = order :: s'.ahead)
    (hu : (Update.mark order .processing).apply s.store = (.ok (), s'.store))
    (hin : s'.inFlight.Perm ({ order with status := .processing } :: s.inFlight)) : Custody s' := by
  have hnew : s.store.Holds .new (order :: s'.ahead) := hahead ▸ hs.ahead
  have horder : s.store.order? order.id = some order := hnew.stored _ List.mem_cons_self
  -- No order in flight has the id of one that is new.
  have hne : ∀ p ∈ s.inFlight, p.id ≠ order.id := by
    refine hs.inFlight.id_ne horder ?_
    rw [hnew.status_eq _ List.mem_cons_self]
    decide
  -- The order in hand is the order as it is now stored.
  have hclaimed : s'.store.order? order.id = some { order with status := .processing } := by
    rw [Update.order?_of_apply_ok hu, if_pos (by rfl), horder]
    rfl
  refine ⟨ho, Update.numbered_apply hs.numbered hu, ?_, hnew.tail.update hu hnew.id_ne_head⟩
  exact ((hs.inFlight.update hu hne).cons (o := { order with status := .processing })
    hclaimed rfl hne).perm hin

/-- Every move keeps custody. -/
theorem step? (hs : Custody s) (h : s.step? m = some s') : Custody s' := by
  have ho : s'.Orderly := hs.orderly.step? h
  have heffect := System.step?_effect hs.orderly h
  generalize s.logged? m = r at heffect
  cases heffect with
  | begin store inFlight ahead =>
    refine ⟨ho, store ▸ hs.numbered, ?_, ahead ▸ .nil _ _⟩
    rw [store, inFlight]
    exact .ordersIn hs.numbered .processing
  | client move store inFlight ahead =>
    -- Users change no order that is there, in flight or ahead.
    have hkeep : ∀ o : Order, s.store.order? o.id = some o → s'.store.order? o.id = some o :=
      fun o horder => store ▸ move.order?_apply horder
    refine ⟨ho, store ▸ move.numbered_apply hs.numbered, ?_, ?_⟩
    · exact inFlight ▸ hs.inFlight.congr fun o _ => hkeep o
    · exact ahead ▸ hs.ahead.congr fun o _ => hkeep o
  | move store inFlight ahead =>
    rw [← store] at ahead
    refine ⟨ho, store ▸ hs.numbered, store ▸ hs.inFlight.perm inFlight, ?_⟩
    exact ahead_of_or (store ▸ hs.numbered) (store ▸ hs.ahead) ahead
  | claim order ahead store inFlight => exact hs.claim ho ahead store inFlight
  | claimFails order e store mem inFlight ahead =>
    refine ⟨ho, Update.numbered_apply hs.numbered store, ?_, ahead ▸ .nil _ _⟩
    exact (hs.inFlight.of_rows (Update.rows_of_apply_error store)).perm inFlight
  | release order r store inFlight ahead =>
    have hmem : order ∈ s.inFlight := inFlight.mem_iff.2 List.mem_cons_self
    have hnumbered := Update.numbered_apply hs.numbered store
    refine ⟨ho, hnumbered, hs.inFlight_update store inFlight, ?_⟩
    exact ahead_of_or hnumbered (hs.ahead_update store hmem) (ahead.imp_right .inl)
  | recoveryFails order e store mem inFlight ahead workers poller =>
    exact ⟨ho, Update.numbered_apply hs.numbered store, inFlight ▸ .nil _ _, ahead ▸ .nil _ _⟩
  | settle order settlement r final done store inFlight ahead =>
    have hmem : order ∈ s.inFlight := inFlight.mem_iff.2 List.mem_cons_self
    refine ⟨ho, Update.numbered_apply hs.numbered store, ?_, ?_⟩
    · exact hs.inFlight_update store (by rwa [Update.order_settle])
    · rw [ahead]
      exact hs.ahead_update store (by rwa [Update.order_settle])
  | settleFails order settlement f final store mem inFlight ahead =>
    have hrows := Update.rows_of_apply_error store
    refine ⟨ho, Update.numbered_apply hs.numbered store, ?_, ?_⟩
    · exact (hs.inFlight.of_rows hrows).perm inFlight
    · rw [ahead]
      exact hs.ahead.of_rows hrows

/-- Induction along a run that starts with custody. -/
theorem run?_induct {P : List Entry → System → Prop} {moves : List Move} (hs : Custody s)
    (hrun : s.run? moves = some s') (hstart : P [] s)
    (hstep : ∀ {log t m t'}, Custody t → P log t → t.step? m = some t' →
      P (log ++ (t.logged? m).toList) t') : Custody s' ∧ P (s.log moves) s' :=
  System.run?_induct (P := fun log t => Custody t ∧ P log t) hrun ⟨hs, hstart⟩
    fun ⟨hcustody, ht⟩ h => ⟨hcustody.step? h, hstep hcustody ht h⟩

/-- Every run keeps custody. -/
theorem run? {moves : List Move} (hs : Custody s) (hrun : s.run? moves = some s') : Custody s' :=
  (hs.run?_induct (P := fun _ _ => True) hrun trivial fun _ _ _ => trivial).1

theorem of_run {store : Store} {moves : List Move} (hstore : store.Reachable)
    (hrun : (System.start store).run? moves = some s) : Custody s :=
  (start hstore.numbered).run? hrun

/-- Induction along a reconciliation, from its beginning on. -/
theorem begin_induct {P : List Entry → System → Prop} {setup : Setup} {signal : Shutdown}
    {moves : List Move} (hs : Custody s) (hrun : s.run? (.begin setup signal :: moves) = some s')
    (hbegin : ∀ t, s.begin? setup signal = some t → P [] t)
    (hstep : ∀ {log t m t'}, Custody t → P log t → t.step? m = some t' →
      P (log ++ (t.logged? m).toList) t') :
    Custody s' ∧ P (s.log (.begin setup signal :: moves)) s' := by
  obtain ⟨t, ht, hrun⟩ := System.run?_cons hrun
  rw [System.log_cons ht]
  exact (hs.step? ht).run?_induct hrun (hbegin t ht) hstep

end Custody
end Reconciliation
end Loyalty
