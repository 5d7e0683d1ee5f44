import Loyalty.Proofs.Reconciliation.Crediting
import Loyalty.Proofs.Reconciliation.Tally

/-!
# The counts of a reconciliation

When a reconciliation has returned, what it added to the counts adds up: the orders that it
recovered, gave to workers or handed back are those that its workers are done with and those
that were made new again (`counts_add_up`). It counts as many orders as processed, and as
invalid, as have become so meanwhile: every order that comes to a final status does so once,
by one update, and stays there.

This is what it *added*, as a reconciler goes on counting where it stopped the time before.
And an owner of the signal who goes away is a shutdown, as a request is
(`counts_off_unrequested`).

* `StoreStep.length_ordersIn`: how many orders have a final status, by what a move adds to
  the log;
* `finals_of_step?`: how many are counted for it, by the same;
* `Store.length_ordersIn_eq`: what more there are of them later has turned to it.
-/

namespace Loyalty

namespace Store

variable {s s' : Store} {id : Int} {o : Order} {status : OrderStatus}

/-- The orders that have that status, and did not have it before. -/
def turned (before now : Store) (status : OrderStatus) : List Order :=
  (now.ordersIn status).filter fun o => (before.order? o.id).map (·.status) ≠ some status

/-- If the orders of a status stay as they are, those that have it later are those that
    have it already and those that turn to it. -/
theorem length_ordersIn_eq (hs : (s.orders.map (·.id)).Nodup) (hs' : (s'.orders.map (·.id)).Nodup)
    (hkept : ∀ id o, s.order? id = some o → o.status = status → s'.order? id = some o) :
    (s'.ordersIn status).length = (s.ordersIn status).length + (s.turned s' status).length := by
  let had (o : Order) : Bool := (s.order? o.id).map (·.status) = some status
  have hperm : ((s'.ordersIn status).filter had).Perm (s.ordersIn status) := by
    refine (List.perm_ext_iff_of_nodup ?_ ?_).2 fun o => ?_
    · exact ((hs'.of_map _).filter _).filter _
    · exact (hs.of_map _).filter _
    · simp only [ordersIn, had, List.mem_filter, decide_eq_true_eq]
      refine ⟨?_, ?_⟩
      · rintro ⟨⟨ho, -⟩, hbefore⟩
        obtain ⟨p, hp, hstatus⟩ := Option.map_eq_some_iff.1 hbefore
        -- The order of that id before is the same, as it was kept.
        have hpo : p = o := by
          simpa [hkept _ p hp hstatus] using order?_of_mem hs' ho
        exact hpo ▸ ⟨mem_of_order? hp, hstatus⟩
      · rintro ⟨ho, hstatus⟩
        have hstored := order?_of_mem hs ho
        have hstored' := hkept _ o hstored hstatus
        exact ⟨⟨mem_of_order? hstored', hstatus⟩, by rw [hstored, Option.map_some, hstatus]⟩
  have hturned : s.turned s' status = (s'.ordersIn status).filter fun o => !had o := by
    simp only [turned, had, ne_eq, decide_not]
  rw [← hperm.length_eq, hturned, ← List.length_eq_length_filter_add]

/-- Replacing an order by one of another status changes the number of orders of a status. -/
theorem length_ordersIn_updateOrder (hs : (s.orders.map (·.id)).Nodup) (ho : s.order? id = some o)
    (hold : o.status ≠ status) (f : Order → Order) :
    ((s.updateOrder id f).ordersIn status).length =
      (s.ordersIn status).length + if (f o).status = status then 1 else 0 := by
  obtain ⟨others, hperm, hperm'⟩ := perm_updateOrder hs ho f
  rw [ordersIn, ordersIn, (hperm.filter _).length_eq, (hperm'.filter _).length_eq]
  by_cases hnew : (f o).status = status <;> simp [hold, hnew]

end Store

namespace Reconciliation

variable {s s' : System} {m : Move} {r : Option Entry} {status : OrderStatus}

/-- The status that an update gives its order. -/
def Update.result : Update → OrderStatus
  | mark _ status => status
  | credit .. => .processed

/-- Whether an order comes to that status by an update. -/
def brings (status : OrderStatus) : Entry → Bool
  | (u, .ok _) => u.result = status
  | (_, .error _) => false

/-- The orders that a reconciliation counted for a final status. -/
def Stats.finals (n : Stats) : OrderStatus → Nat
  | .processed => n.processed
  | .invalid => n.invalidated
  | .new | .processing => 0

theorem Stats.finals_add (m n : Stats) (status : OrderStatus) :
    (m + n).finals status = m.finals status + n.finals status := by
  cases status <;> rfl

theorem Update.status_change (u : Update) (o : Order) : (u.change o).status = u.result := by
  cases u <;> rfl

/-- There is one more order of a final status for every update that brings one to it. -/
theorem StoreStep.length_ordersIn {store store' : Store} (h : StoreStep store store' r)
    (hs : (store.orders.map (·.id)).Nodup) (hfinal : status.isFinal = true) :
    (store'.ordersIn status).length =
      (store.ordersIn status).length + r.toList.countP (brings status) := by
  cases h with
  | stays hstore => rw [hstore]; rfl
  | client move hstore =>
    rw [hstore]
    have hnew : status ≠ .new := fun h => by simp [h, OrderStatus.isFinal] at hfinal
    rcases move.orders_apply store with h | ⟨number, user, now, h⟩ <;> rw [Store.ordersIn, h]
    · rfl
    · simp [Store.addOrder, Store.ordersIn, hnew.symm]
  | update u result hu hstored hfits =>
    cases result with
    | error e =>
      rw [Store.ordersIn, Store.orders_of_rows (Update.rows_of_apply_error hu)]
      rfl
    | ok _ =>
      have hold : u.order.status ≠ status := by
        rintro rfl
        simp [hfits.not_isFinal] at hfinal
      have hlength := Store.length_ordersIn_updateOrder hs hstored hold u.change
      rw [Update.status_change] at hlength
      rw [Store.ordersIn, Update.orders_of_apply_ok hu]
      simpa [Store.ordersIn, brings, List.countP_singleton] using hlength

/-! ## What is counted -/

/-- The poller, and a worker that gives an order back, ask for no final status. -/
theorem isFinal_of_update? {u : Update} (hm : ∀ i reply, m ≠ .worker i (.answer reply))
    (hu : s.update? m = some u) : u.result.isFinal = false := by
  unfold System.update? at hu
  split at hu
  · split at hu
    · cases hu; rfl
    · split_ifs at hu
      cases hu; rfl
    · split_ifs at hu
      cases hu; rfl
    · cases hu; rfl
    · cases hu
  · split at hu <;> cases hu
    rfl
  next i reply => exact absurd rfl (hm i reply)
  · split at hu <;> cases hu
    rfl
  · cases hu

theorem countP_of_not_answer (hm : ∀ i reply, m ≠ .worker i (.answer reply))
    (hfinal : status.isFinal = true) : (s.logged? m).toList.countP (brings status) = 0 := by
  rw [List.countP_eq_zero]
  intro entry hmem
  obtain ⟨u, hu, rfl⟩ := Option.map_eq_some_iff.1 (Option.mem_toList.1 hmem)
  have hne : u.result ≠ status := by
    rintro rfl
    simp [isFinal_of_update? hm hu] at hfinal
  cases (u.apply s.store).1 <;> simp [brings, hne]

theorem finals_settled (n : Stats) (order : Order) (settlement : Settlement)
    (hfinal : status.isFinal = true) :
    (n.settled settlement).finals status =
      n.finals status + if (Update.settle order settlement).result = status then 1 else 0 := by
  cases settlement <;> cases status <;>
    simp [Stats.settled, Stats.finals, Update.settle, Update.result, OrderStatus.isFinal] at *

@[simp] theorem finals_failure (n : Stats) (status : OrderStatus) :
    n.failure.finals status = n.finals status := by
  cases status <;> rfl

@[simp] theorem finals_release (s : System) (order : Order) (status : OrderStatus) :
    (s.release order).stats.finals status = s.stats.finals status := by
  rw [System.release]
  split <;> cases status <;> rfl

/-- A move counts an order for a final status if it brings it to that. -/
theorem finals_of_step? (hm : ∀ setup signal, m ≠ .begin setup signal) (hrenew : m ≠ .renew)
    (hfinal : status.isFinal = true) (hstep : s.step? m = some s') :
    s'.stats.finals status =
      s.stats.finals status + (s.logged? m).toList.countP (brings status) := by
  -- Only an answer that is written down brings an order to a final status.
  cases System.step?_step hstep with
  | begin setup signal => exact absurd rfl (hm setup signal)
  | renew => exact absurd rfl hrenew
  | settle i order reply store worker done =>
    rw [System.logged?_of_answer worker done, System.setWorker_stats,
      finals_settled _ order _ hfinal]
    simp [brings]
  | overflow i order reply store worker overflows =>
    rw [System.logged?_of_answer worker overflows]
    rfl
  | giveBackFails i order reply f store worker giveBack fails =>
    rw [System.logged?_of_answer worker fails]
    simp [brings]
  | settleFails i order reply f store worker final fails =>
    rw [System.logged?_of_answer worker fails]
    rfl
  | recovered | cycle | send =>
    rw [countP_of_not_answer (by simp) hfinal]
    cases status <;> rfl
  | _ =>
    rw [countP_of_not_answer (by simp) hfinal]
    simp

/-- A reconciliation counts as many orders for a final status as come to it. -/
theorem finals_of_run? {moves : List Move} (hs : Custody s) (hkeeps : s.KeepsQueue)
    (hbegin : ∀ setup signal, .begin setup signal ∉ moves) (hrenew : .renew ∉ moves)
    (hrun : s.run? moves = some s') (hfinal : status.isFinal = true) :
    s.stats.finals status + (s'.store.ordersIn status).length =
      s'.stats.finals status + (s.store.ordersIn status).length := by
  refine System.course_induct (P := fun _ _ t =>
    s.stats.finals status + (t.store.ordersIn status).length =
      t.stats.finals status + (s.store.ordersIn status).length) hs hkeeps hbegin hrenew hrun rfl
    fun hcustody _ hm hrenew ht hstep => ?_
  rw [finals_of_step? hm hrenew hfinal hstep,
    (hcustody.storeStep hstep).length_ordersIn hcustody.numbered.nodup_orders hfinal]
  omega

/-- The orders that turn to a final status are as many as there are more of it. -/
theorem length_turned_of_run {t : System} {moves : List Move} (ht : Custody t) (hs : Custody s)
    (hrun : t.run? moves = some s) (hfinal : status.isFinal = true) :
    (s.store.ordersIn status).length =
      (t.store.ordersIn status).length + (t.store.turned s.store status).length :=
  Store.length_ordersIn_eq ht.numbered.nodup_orders hs.numbered.nodup_orders
    fun _ _ ho hstatus => order?_of_run ht ho (by rw [hstatus, hfinal]) hrun

/-- When a reconciliation has returned, and no order failed to be made new again and no
    credit overflowed, then of what it added to the counts, the orders that it gave to
    workers, those that its recovery made new again and the one that the poller handed back,
    if it saw a shutdown after it had claimed it, are those that it counted as processed,
    invalid, given back, failed or released. As many became processed, and as many invalid,
    as it counted. If meanwhile no shutdown was asked for, and the owner of the signal did
    not go away, workers are done with every order that was given to them. -/
theorem counts_add_up {store : Store} {before moves : List Move} {t : System} {setup : Setup}
    {signal : Shutdown} {failure : Option Stop} (hstore : store.Reachable)
    (hbefore : (System.start store).run? before = some t)
    (hrun : t.run? (.begin setup signal :: moves) = some s)
    (hbegin : ∀ setup signal, .begin setup signal ∉ moves) (hrenew : .renew ∉ moves)
    (hreturned : s.poller = .returned failure)
    (hnew : ∀ order r, (.mark order .new, r) ∈ t.log (.begin setup signal :: moves) → r = .ok ())
    (hoverflow : ∀ u, (u, .error .overflow) ∉ t.log (.begin setup signal :: moves)) :
    ∃ counted : Stats, s.stats = t.stats + counted ∧
      (∃ recovered earlier later u, moves = earlier ++ .poll :: later ∧
        t.run? (.begin setup signal :: earlier) = some u ∧ u.poller = .recovering [] recovered ∧
        counted.dispatched + recovered + (if moves.any Move.handsBack then 1 else 0) =
          counted.processed + counted.invalidated + counted.retried + counted.failed +
            counted.released) ∧
      counted.processed = (t.store.turned s.store .processed).length ∧
      counted.invalidated = (t.store.turned s.store .invalid).length ∧
      (s.shutdown.cancelled = false → counted.dispatched =
        counted.processed + counted.invalidated + counted.retried + counted.failed) := by
  have ht : Custody t := .of_run hstore hbefore
  have hs : Custody s := ht.run? hrun
  obtain ⟨b, hb, hlater⟩ := System.run?_cons hrun
  have hcustody : Custody b := ht.step? hb
  have hkeeps : b.KeepsQueue := System.keepsQueue_of_begin? hb
  have hstats : b.stats = t.stats := System.stats_of_begin? hb
  obtain ⟨hkept, hpoller, -, -⟩ := System.begin?_spec hb
  have hsmooth : Smooth (b.log moves) := by
    rw [System.log_cons hb] at hnew hoverflow
    exact ⟨hnew, hoverflow⟩
  obtain ⟨counted, hcounted⟩ := System.counts_of_run? hrenew hlater
  rw [hstats] at hcounted
  have hdispatched : s.stats.dispatched = t.stats.dispatched + counted.dispatched :=
    congrArg Stats.dispatched hcounted
  have hreleased : s.stats.released = t.stats.released + counted.released :=
    congrArg Stats.released hcounted
  have hhandled : s.stats.handled = t.stats.handled + counted.handled := by
    rw [hcounted, Stats.handled_add]
  have hfinals (status : OrderStatus) (hfinal : status.isFinal = true) :
      counted.finals status = (t.store.turned s.store status).length := by
    have hbrought := finals_of_run? hcustody hkeeps hbegin hrenew hlater hfinal
    have hturned := length_turned_of_run ht hs hrun hfinal
    rw [hstats, hkept, hcounted, Stats.finals_add] at hbrought
    omega
  -- Nothing is left to be counted, so the balance is one of the counts.
  have hbalance := System.tallied_of_run? hcustody hkeeps hbegin hrenew hlater
    (System.tallied_of_begin? hb) hsmooth
  rw [System.Tallied, System.outstanding_of_returned hs.orderly hreturned, Nat.add_zero] at hbalance
  refine ⟨counted, hcounted, ?_, hfinals .processed rfl, hfinals .invalid rfl, fun hopen => ?_⟩
  · obtain ⟨earlier, later, u, hmoves, hu, hrecovered⟩ :=
      System.recovers_of_run? hpoller hbegin hsmooth hlater hreturned
    rw [Nat.zero_add] at hrecovered
    refine ⟨_, earlier, later, u, hmoves, (System.run?_of_step? hb).trans hu, hrecovered, ?_⟩
    rw [← System.countP_handsBack hcustody hkeeps hbegin hrenew hlater]
    change counted.dispatched + _ + _ = counted.handled + counted.released
    omega
  · obtain ⟨hundisturbed, hnone⟩ := System.undisturbed_of_run? hcustody hkeeps hbegin hrenew hlater
      (System.undisturbed_of_begin? hb) hsmooth hopen
    have hrecovered : s.stats.released =
        t.stats.released + (t.store.ordersIn .processing).length := by
      simpa [hreturned, Poller.held] using hundisturbed.released
    change counted.dispatched = counted.handled
    omega

/-- The only worker credits the first of two orders with `729.98`. Then the claim of the
    second is refused, and the reconciliation returns. -/
def refusedSecondClaim : List Move :=
  [.poll, .poll, .poll, .poll, .worker 0 .take,
    .worker 0 (.answer (.ok ⟨"18", .processed, Amount.ofParts? false 72998 2⟩)),
    .client (.failMarks .processing 1), .poll, .worker 0 .quit, .poll, .poll]

theorem counts_add_up_refused :
    let setup : Setup := { Setup.standard with workers := 1 }
    let refused : Stop := .failure (.internal (.markRefused 2 .processing))
    ∃ t s : System, (System.start .empty).run? [.client (.register 1 [] "ann" "pw"),
        .client (.submit "18" 1 ⟨0, 0⟩), .client (.submit "26" 1 ⟨0, 0⟩)] = some t ∧
      t.run? (.begin setup .start :: refusedSecondClaim) = some s ∧
      s.poller = .returned (some refused) ∧ s.stats.processed = 1 ∧
      (t.store.turned s.store .processed).length = 1 ∧ s.stats.dispatched = 1 := by
  intro setup refused
  obtain ⟨t, ht, hzero⟩ : ∃ t : System, (System.start .empty).run?
      [.client (.register 1 [] "ann" "pw"), .client (.submit "18" 1 ⟨0, 0⟩),
        .client (.submit "26" 1 ⟨0, 0⟩)] = some t ∧ t.stats = .zero := ⟨_, rfl, rfl⟩
  obtain ⟨s, hrun, hreturned, hopen, hstats⟩ : ∃ s : System,
      t.run? (.begin setup .start :: refusedSecondClaim) = some s ∧
        s.poller = .returned (some refused) ∧ s.shutdown.cancelled = false ∧
        s.stats = ⟨1, 1, 1, 0, 0, 0, 0⟩ := by
    cases ht
    exact ⟨_, rfl, rfl, rfl, rfl⟩
  have hlog : (t.log (.begin setup .start :: refusedSecondClaim)).map
      (fun entry => (entry.1.result, entry.2)) =
        [(.processing, .ok ()), (.processed, .ok ()), (.processing, .error refused)] := by
    cases ht
    rfl
  have hmem (u : Update) (r : Outcome Unit)
      (h : (u, r) ∈ t.log (.begin setup .start :: refusedSecondClaim)) : (u.result, r) ∈
        [(.processing, .ok ()), (.processed, .ok ()), (.processing, .error refused)] :=
    hlog ▸ List.mem_map.2 ⟨(u, r), h, rfl⟩
  obtain ⟨counted, hcounted, -, hprocessed, -, hdispatched⟩ := counts_add_up Store.reachable_empty
    ht hrun (by simp [refusedSecondClaim]) (by simp [refusedSecondClaim]) hreturned
    (fun order r h => by simpa [Update.result] using hmem _ _ h)
    (fun u h => by simpa [refused] using hmem _ _ h)
  -- Nothing was counted before, so that what was added is all that is counted.
  rw [hzero, Stats.zero_add, hstats] at hcounted
  cases hcounted
  exact ⟨t, s, ht, hrun, hreturned, by rw [hstats], hprocessed.symm,
    (congrArg Stats.dispatched hstats).trans (hdispatched hopen)⟩

/-- The owner of the signal goes away without a request, when the first of two orders waits
    for the only worker. The worker ends, and the claim of the second is refused. -/
def abandonedRun : List Move :=
  [.begin { Setup.standard with workers := 1 } .start, .poll, .poll, .poll, .poll,
    .abandonShutdown, .worker 0 .quit, .client (.failMarks .processing 1), .poll, .poll, .poll,
    .poll, .poll]

/-- The only worker credits an order, and the reconciliation returns at a shutdown. -/
def creditingRun : List Move :=
  [.begin { Setup.standard with workers := 1 } .start, .poll, .poll, .poll, .poll, .worker 0 .take,
    .worker 0 (.answer (.ok ⟨"18", .processed, Amount.ofParts? false 72998 2⟩)), .poll,
    .requestShutdown, .leave, .worker 0 .quit, .poll, .poll]

/-- The reconciler runs once more, and sees a shutdown at once. -/
def idleRun : List Move :=
  [.begin { Setup.standard with workers := 1 } .start, .poll, .requestShutdown, .poll,
    .worker 0 .quit, .poll, .poll]

/-- A reconciliation returns with a failure, no shutdown was requested, and yet the order that
    it gave to a worker was taken by none. And a reconciliation in which no order becomes
    processed returns with one that is counted as such. -/
theorem counts_off_unrequested :
    let submits (numbers : List String) : List Move := .client (.register 1 [] "ann" "pw") ::
      numbers.map fun number => .client (.submit number 1 ⟨0, 0⟩)
    let refused : Stop := .failure (.internal (.markRefused 2 .processing))
    (∃ t s : System, (System.start .empty).run? (submits ["18", "26"]) = some t ∧
      t.run? abandonedRun = some s ∧ s.poller = .returned (some refused) ∧
      s.shutdown.requested = false ∧ (t.log abandonedRun).map (fun e => (e.1.result, e.2)) =
        [(.processing, .ok ()), (.processing, .error refused), (.new, .ok ())] ∧
      s.stats.dispatched ≠
        s.stats.processed + s.stats.invalidated + s.stats.retried + s.stats.failed) ∧
    ∃ t s : System, (System.start .empty).run? (submits ["18"] ++ creditingRun) = some t ∧
      t.run? idleRun = some s ∧ s.poller = .returned none ∧ t.log idleRun = [] ∧
      s.stats.processed ≠ (t.store.turned s.store .processed).length := by
  refine ⟨⟨_, _, rfl, rfl, rfl, rfl, rfl, by decide⟩, ⟨_, _, rfl, rfl, rfl, rfl, ?_⟩⟩
  decide

end Reconciliation
end Loyalty
