import Loyalty.Proofs.Reconciliation.Custody

/-!
# Who has an order

While a reconciliation goes on, every order that is processing is in flight, in
one place only, unless it was lost: the store would not make it new again, or
its credit overflowed (`Lost`). Only where the recovery itself fails, what it
has not come to is left behind (`Abandoned`).

* `Accounted.step?`: every move keeps account of the orders that are processing;
* `Bounded.step?`: every move keeps the queue within its room;
* `owned_once`: what holds in every state of a reconciliation, on any store that
  operations can lead to and after any moves.
-/

namespace Loyalty.Reconciliation

/-- The order was lost: it was not made new again when it should have been, or
    its credit overflowed. -/
def Lost (log : List Entry) (id : Int) : Prop :=
  ∃ order : Order, order.id = id ∧
    ((∃ e, (.mark order .new, .error e) ∈ log) ∨
      ∃ points, (.credit order points, .error .overflow) ∈ log)

/-- Every order that is processing is in flight, unless it was lost. -/
def Covered (log : List Entry) (s : System) : Prop :=
  ∀ id o, s.store.order? id = some o → o.status = .processing → o ∈ s.inFlight ∨ Lost log id

/-- The recovery failed, and no worker was ever started. -/
def Abandoned (log : List Entry) (s : System) : Prop :=
  s.workers = [] ∧ (∃ failure, s.poller = .returned failure) ∧
    ∃ order e, (.mark order .new, .error e) ∈ log

/-- The orders that are processing are accounted for, unless the recovery failed. -/
def Accounted (log : List Entry) (s : System) : Prop := Covered log s ∨ Abandoned log s

variable {s s' : System} {m : Move} {log : List Entry} {r : Option Entry}

theorem Lost.append {id : Int} (h : Lost log id) (entries : List Entry) :
    Lost (log ++ entries) id := by
  obtain ⟨order, hid, hlost⟩ := h
  refine ⟨order, hid, hlost.imp ?_ ?_⟩
  · exact fun ⟨e, he⟩ => ⟨e, List.mem_append_left entries he⟩
  · exact fun ⟨points, hp⟩ => ⟨points, List.mem_append_left entries hp⟩

/-! ## Orders that are processing -/

/-- The orders of a new reconciliation are those that are processing. -/
theorem Covered.begin (hstore : s'.store = s.store)
    (hin : s'.inFlight = s.store.ordersIn .processing) (log : List Entry) : Covered log s' := by
  intro id o ho hstatus
  rw [hstore] at ho
  rw [hin]
  exact .inl (List.mem_filter.2 ⟨Store.mem_of_order? ho, by simpa using hstatus⟩)

theorem Covered.client (h : Covered log s) (move : ClientMove)
    (hstore : s'.store = move.apply s.store) (hin : s'.inFlight = s.inFlight) :
    Covered log s' := by
  intro id o ho hstatus
  rw [hstore] at ho
  cases hold : s.store.order? id with
  | none =>
    rw [(move.new_of_order?_apply hold ho).1] at hstatus
    cases hstatus
  | some p =>
    have hpo : p = o := by simpa [move.order?_apply hold] using ho
    rw [hin, ← hpo]
    exact h id p hold (hpo ▸ hstatus)

theorem Covered.of_rows (h : Covered log s) (hrows : s'.store.rows = s.store.rows)
    (hin : s'.inFlight.Perm s.inFlight) (entries : List Entry) : Covered (log ++ entries) s' := by
  intro id o ho hstatus
  rw [Store.order?_of_rows hrows] at ho
  exact (h id o ho hstatus).imp hin.mem_iff.2 (·.append entries)

theorem Covered.claim {order : Order} (h : Covered log s)
    (hu : (Update.mark order .processing).apply s.store = (.ok (), s'.store))
    (horder : s.store.order? order.id = some order)
    (hin : s'.inFlight.Perm ({ order with status := .processing } :: s.inFlight))
    (entries : List Entry) : Covered (log ++ entries) s' := by
  intro id o ho hstatus
  rw [Update.order?_of_apply_ok hu] at ho
  split_ifs at ho with hid
  · rw [hid, show (Update.mark order .processing).order.id = order.id from rfl, horder] at ho
    cases ho
    exact .inl (hin.mem_iff.2 List.mem_cons_self)
  · exact (h id o ho hstatus).imp (fun hmem => hin.mem_iff.2 (List.mem_cons_of_mem _ hmem))
      (·.append entries)

/-- An order that leaves the orders in flight is not processing any more, or is
    lost. -/
theorem Covered.leave {u : Update} {r : Outcome Unit} (hs : Custody s) (h : Covered log s)
    (hu : u.apply s.store = (r, s'.store)) (hin : s.inFlight.Perm (u.order :: s'.inFlight))
    (hok : (u.change u.order).status ≠ .processing)
    (hlost : ∀ e, r = .error e → Lost (log ++ [(u, r)]) u.order.id) :
    Covered (log ++ [(u, r)]) s' := by
  have horder : s.store.order? u.order.id = some u.order :=
    hs.inFlight.stored _ (hin.mem_iff.2 List.mem_cons_self)
  intro id o ho hstatus
  by_cases hid : id = u.order.id
  · subst hid
    cases r with
    | ok _ =>
      rw [Update.order?_of_apply_ok hu, if_pos rfl, horder] at ho
      cases ho
      exact absurd hstatus hok
    | error e => exact .inr (hlost e rfl)
  · have hold : s.store.order? id = some o := by
      cases r with
      | ok _ => rwa [Update.order?_of_apply_ok hu, if_neg hid] at ho
      | error e =>
        have hrows := Update.rows_of_apply_error hu
        rwa [Store.order?_of_rows hrows] at ho
    refine (h id o hold hstatus).imp (fun hmem => ?_) (·.append _)
    rcases List.mem_cons.1 (hin.mem_iff.1 hmem) with rfl | hmem'
    · exact absurd (Store.id_of_order? hold).symm hid
    · exact hmem'

/-- Orders that are processing are accounted for after every move. -/
theorem Accounted.step? (hs : Custody s) (h : Accounted log s) (hstep : s.step? m = some s') :
    Accounted (log ++ (s.logged? m).toList) s' := by
  rcases h with h | ⟨hworkers, ⟨failure, hpoller⟩, hlog⟩
  · have heffect := System.step?_effect hs.orderly hstep
    generalize s.logged? m = r at heffect
    cases heffect with
    | begin store inFlight ahead => exact .inl (.begin store inFlight _)
    | client move store inFlight ahead =>
      rw [Option.toList_none, List.append_nil]
      exact .inl (h.client move store inFlight)
    | move store inFlight ahead => exact .inl (h.of_rows (by rw [store]) inFlight _)
    | claim order ahead store inFlight =>
      exact .inl (h.claim store (hs.ahead.stored _ (ahead ▸ List.mem_cons_self)) inFlight _)
    | claimFails order e store mem inFlight ahead =>
      exact .inl (h.of_rows (Update.rows_of_apply_error store) inFlight _)
    | release order r store inFlight ahead =>
      refine .inl (h.leave hs store inFlight (by simp [Update.change]) ?_)
      rintro e rfl
      exact ⟨order, rfl, .inl ⟨e, by simp⟩⟩
    | recoveryFails order e store mem inFlight ahead workers poller =>
      exact .inr ⟨workers, ⟨_, poller⟩, order, e, by simp⟩
    | settle order settlement r final done store inFlight ahead =>
      refine .inl (h.leave hs store (by rwa [Update.order_settle]) ?_ ?_)
      · cases settlement with
        | giveBack => exact absurd rfl final
        | _ => simp [Update.settle, Update.change]
      · rintro e rfl
        obtain rfl : e = .overflow := by simpa using done
        cases settlement with
        | credit points => exact ⟨order, rfl, .inr ⟨points, by simp [Update.settle]⟩⟩
        | _ => exact absurd store Update.apply_mark_ne_overflow
    | settleFails order settlement f final store mem inFlight ahead =>
      exact .inl (h.of_rows (Update.rows_of_apply_error store) inFlight _)
  · rcases System.step?_of_returned hpoller hworkers hstep with ⟨setup, signal, rfl⟩ | ⟨hp, hw⟩
    · -- A new reconciliation takes up what was left behind.
      obtain ⟨hstore, -⟩ := System.begin?_spec hstep
      exact .inl (.begin hstore (System.inFlight_of_begin? hstep) _)
    · obtain ⟨order, e, he⟩ := hlog
      exact .inr ⟨hw.trans hworkers, ⟨failure, hp.trans hpoller⟩, order, e,
        List.mem_append_left _ he⟩

/-! ## One order, one owner -/

/-- Workers that have orders of the same id in hand are the same. -/
theorem worker_unique {i j : Nat} {w w' : Worker} {o o' : Order}
    (hs : (s.inFlight.map (·.id)).Nodup) (hi : s.workers[i]? = some w)
    (hj : s.workers[j]? = some w') (hw : w.inHand = some o) (hw' : w'.inHand = some o')
    (hid : o.id = o'.id) : i = j := by
  by_contra hij
  have hperm : s.inFlight.Perm (o :: (s.setWorker i .idle).inFlight) :=
    System.inFlight_letGo hi hw rfl
  have hnodup := (hperm.map (·.id)).nodup_iff.1 hs
  rw [List.map_cons, List.nodup_cons] at hnodup
  have hj' : (s.setWorker i .idle).workers[j]? = some w' := by
    rw [System.setWorker, List.getElem?_set_ne hij, hj]
  exact hnodup.1 (List.mem_map.2 ⟨o', System.mem_inFlight_of_worker hj' hw', hid.symm⟩)

/-- The recovery of a reconciliation is over, and its workers are started. -/
def HasRecovered (s : System) : Prop := s.workers ≠ []

/-- What holds in every state of a reconciliation, whatever came before it. -/
theorem accounted_of_run {t : System} {setup : Setup} {signal : Shutdown} {moves : List Move}
    (ht : Custody t) (hrun : t.run? (.begin setup signal :: moves) = some s) :
    Custody s ∧ s.Bounded ∧ Accounted (t.log (.begin setup signal :: moves)) s := by
  refine ht.begin_induct (P := fun log t => t.Bounded ∧ Accounted log t) hrun
    (fun t' hbegin => ⟨.begin? hbegin, .inl ?_⟩) fun hcustody ⟨hbounded, haccounted⟩ hstep =>
      ⟨hbounded.step? hstep, haccounted.step? hcustody hstep⟩
  obtain ⟨hkept, -⟩ := System.begin?_spec hbegin
  exact .begin hkept (System.inFlight_of_begin? hbegin) []

/-- In every state of a reconciliation, the orders in flight have distinct ids
    and are processing in the store, the queue keeps within its room, and no
    two workers have the same order. After the recovery, every order that is
    processing is in flight, unless it was lost since the reconciliation began. -/
theorem owned_once {store : Store} {before moves : List Move} {t : System} {setup : Setup}
    {signal : Shutdown} (hstore : store.Reachable)
    (hbefore : (System.start store).run? before = some t)
    (hrun : t.run? (.begin setup signal :: moves) = some s) :
    (s.inFlight.map (·.id)).Nodup ∧
    (∀ o ∈ s.inFlight, s.store.order? o.id = some o ∧ o.status = .processing) ∧
    s.queue.length ≤ max 1 s.setup.queueCapacity ∧
    (HasRecovered s → ∀ o ∈ s.store.orders, o.status = .processing →
      o ∈ s.inFlight ∨ Lost (t.log (.begin setup signal :: moves)) o.id) ∧
    (∀ (i j : Nat) (w w' : Worker) (o o' : Order), s.workers[i]? = some w →
      s.workers[j]? = some w' → w.inHand = some o → w'.inHand = some o' → o.id = o'.id →
      i = j) := by
  obtain ⟨hcustody, hbounded, haccounted⟩ := accounted_of_run (.of_run hstore hbefore) hrun
  have hdistinct := hcustody.inFlight.distinct
  refine ⟨hdistinct, fun o ho => ⟨hcustody.inFlight.stored o ho, hcustody.inFlight.status_eq o ho⟩,
    ?_, fun hrecovered o ho hstatus => ?_, fun i j w w' o o' hi hj hw hw' hid => ?_⟩
  · rw [Nat.max_comm]
    exact hbounded
  · -- The workers are started only where the recovery did not fail.
    rcases haccounted with hcovered | habandoned
    · exact hcovered o.id o (Store.order?_of_mem hcustody.numbered.nodup_orders ho) hstatus
    · exact absurd habandoned.1 hrecovered
  · exact worker_unique hdistinct hi hj hw hw' hid

/-- A worker has taken the only order there is. -/
theorem owned_once_taken : ∃ t s : System,
    (System.start .empty).run?
      [.client (.register 1 [] "ann" "pw"), .client (.submit "18" 1 ⟨0, 0⟩)] = some t ∧
    t.run? [.begin .standard .start, .poll, .poll, .poll, .poll, .worker 0 .take] = some s ∧
    HasRecovered s ∧ s.inFlight.length = 1 ∧ (s.inFlight.map (·.id)).Nodup := by
  obtain ⟨t, hbefore⟩ : ∃ t : System, (System.start .empty).run?
      [.client (.register 1 [] "ann" "pw"), .client (.submit "18" 1 ⟨0, 0⟩)] = some t := ⟨_, rfl⟩
  obtain ⟨s, hrun⟩ : ∃ s : System, t.run?
      [.begin .standard .start, .poll, .poll, .poll, .poll, .worker 0 .take] = some s := by
    cases hbefore
    exact ⟨_, rfl⟩
  have howned := owned_once Store.reachable_empty hbefore hrun
  cases hbefore
  cases hrun
  exact ⟨_, _, rfl, rfl, List.cons_ne_nil _ _, rfl, howned.1⟩

end Loyalty.Reconciliation
