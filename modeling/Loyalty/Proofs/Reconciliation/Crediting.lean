import Loyalty.Proofs.Reconciliation.Turn

/-!
# Every order is credited once

The store guards no status: it marks and credits whatever it is told to. That an
order is credited once only comes from its custody, turn by turn.

* `Credited.turn`: what was credited for an order is its accrual, it is one
  amount at most, and it is there if and only if the order is processed;
* `credited_once`: this in every run of the system, with the ways that the
  status of an order can go.
-/

namespace Loyalty.Reconciliation

/-- The amounts that were credited for the order of an id. -/
def creditsOf (log : List Entry) (id : Int) : List Amount :=
  log.filterMap fun
    | (.credit order points, .ok ()) => if order.id = id then some points else none
    | _ => none

/-- What is credited for an order is its accrual, which it has if it is
    processed. -/
def Credited (credits : List Amount) : Option Order → Prop
  | none => credits = []
  | some o => credits = o.accrual.toList ∧ (o.accrual.isSome ↔ o.status = .processed)

variable {s s' : System} {log : List Entry} {id : Int}

theorem creditsOf_append (log log' : List Entry) (id : Int) :
    creditsOf (log ++ log') id = creditsOf log id ++ creditsOf log' id := List.filterMap_append

/-- What is done to other orders credits nothing for this one. -/
theorem creditsOf_eq_nil {r : Option Entry} (h : ∀ u, r = some (u, .ok ()) → u.order.id ≠ id) :
    creditsOf r.toList id = [] := by
  rcases r with - | ⟨⟨order, status⟩ | ⟨order, points⟩, e | _⟩
  · rfl
  · rfl
  · rfl
  · rfl
  · have hid : order.id ≠ id := h (.credit order points) rfl
    simp [creditsOf, hid]

/-- An order that is not processed was not credited. -/
theorem Credited.eq_nil {credits : List Amount} {o : Order} (h : Credited credits (some o))
    (ho : o.status ≠ .processed) : credits = [] ∧ o.accrual = none := by
  obtain ⟨hcredits, haccrual⟩ := h
  have hnone : o.accrual = none := by
    rw [← Option.not_isSome_iff_eq_none, haccrual]
    exact ho
  exact ⟨by rw [hcredits, hnone]; rfl, hnone⟩

/-- Every turn keeps what is credited for an order in step with the order. -/
theorem Credited.turn {order? order?' : Option Order} {r : Option Entry}
    (h : Credited (creditsOf log id) order?) (hturn : Turn id order? order?' r) :
    Credited (creditsOf (log ++ r.toList) id) order?' := by
  -- Whatever is done to the order, it was not processed before: no credit is there yet.
  rw [creditsOf_append]
  cases hturn with
  | stays _ _ other => rwa [creditsOf_eq_nil other, List.append_nil]
  | comes order new accrual =>
    refine ⟨by rw [accrual]; exact List.append_eq_nil_iff.2 ⟨h, rfl⟩, ?_⟩
    simp [accrual, new]
  | claimed order id_eq new =>
    obtain ⟨hnil, haccrual⟩ := h.eq_nil (by simp [new])
    simp [Credited, creditsOf, haccrual, ← hnil]
  | released order id_eq processing =>
    obtain ⟨hnil, haccrual⟩ := h.eq_nil (by simp [processing])
    simp [Credited, creditsOf, haccrual, ← hnil]
  | refused order id_eq processing =>
    obtain ⟨hnil, haccrual⟩ := h.eq_nil (by simp [processing])
    simp [Credited, creditsOf, haccrual, ← hnil]
  | credited order points id_eq processing =>
    obtain ⟨hnil, -⟩ := h.eq_nil (by simp [processing])
    rw [hnil]
    simp [Credited, creditsOf, id_eq]

theorem Credited.length_le {credits : List Amount} {order? : Option Order}
    (h : Credited credits order?) : credits.length ≤ 1 := by
  cases order? with
  | none => simp [show credits = [] from h]
  | some o =>
    rw [h.1, Option.length_toList]
    split <;> decide

/-- What holds of every run from the empty store on. -/
theorem credited_of_run {moves : List Move} (hrun : (System.start .empty).run? moves = some s) :
    Custody s ∧ ∀ id, Credited (creditsOf ((System.start .empty).log moves) id)
      (s.store.order? id) := by
  refine (Custody.start Store.numbered_empty).run?_induct
    (P := fun log t => ∀ id, Credited (creditsOf log id) (t.store.order? id)) hrun (fun _ => rfl) ?_
  intro log t m t' hcustody hcredited hstep id
  exact (hcredited id).turn (hcustody.turn hstep id)

/-- An order that is settled is never changed again. -/
theorem order?_of_run {moves : List Move} {o : Order} (hs : Custody s)
    (ho : s.store.order? id = some o) (hfinal : o.status.isFinal)
    (hrun : s.run? moves = some s') : s'.store.order? id = some o := by
  refine (hs.run?_induct (P := fun _ t => t.store.order? id = some o) hrun ho ?_).2
  intro log t m t' hcustody ht hstep
  have hturn := hcustody.turn hstep id
  rw [ht] at hturn
  exact hturn.final hfinal

/-- In every run from the empty store on, orders come as new ones, and go from
    new to processing and from there back or to an end, where they stay as they
    are. Each is credited once at most, and its accrual is what was credited,
    which is there if and only if it is processed. -/
theorem credited_once {moves : List Move} (hrun : (System.start .empty).run? moves = some s) :
    (s.store.orders.map (·.id)).Nodup ∧
    (∀ m s', s.step? m = some s' → ∀ id o, s.store.order? id = some o →
      ∃ o', s'.store.order? id = some o' ∧ (o'.status = o.status ∨ o.status.leadsTo o'.status)) ∧
    (∀ m s', s.step? m = some s' → ∀ id o', s.store.order? id = none →
      s'.store.order? id = some o' → o'.status = .new) ∧
    (∀ moves' s', s.run? moves' = some s' → ∀ id o, s.store.order? id = some o →
      o.status.isFinal → s'.store.order? id = some o) ∧
    (∀ id, (creditsOf ((System.start .empty).log moves) id).length ≤ 1) ∧
    (∀ id o, s.store.order? id = some o → (o.accrual.isSome ↔ o.status = .processed) ∧
      o.accrual.toList = creditsOf ((System.start .empty).log moves) id) := by
  obtain ⟨hcustody, hcredited⟩ := credited_of_run hrun
  refine ⟨hcustody.numbered.nodup_orders, fun m s' hstep id o ho => ?_,
    fun m s' hstep id o' ho ho' => ?_, fun moves' s' hrun' id o ho hfinal => ?_,
    fun id => (hcredited id).length_le, fun id o ho => ?_⟩
  · have hturn := hcustody.turn hstep id
    rw [ho] at hturn
    exact hturn.leadsTo
  · have hturn := hcustody.turn hstep id
    rw [ho, ho'] at hturn
    exact hturn.new_of_none
  · exact order?_of_run hcustody ho hfinal hrun'
  · have hcredit := hcredited id
    rw [ho] at hcredit
    exact ⟨hcredit.2, hcredit.1.symm⟩

/-- An order is submitted and taken by a worker, whose credit of `729.98` the
    store refuses. In the next cycle the authority gives the same answer again. -/
def retriedCredit : List Move :=
  let points : Amount := ⟨false, 72998, 2, by decide, by decide⟩
  let cycle : List Move := [.poll, .poll, .poll, .worker 0 .take,
    .worker 0 (.answer (.ok ⟨"18", .processed, some points⟩))]
  [.client (.register 1 [] "ann" "pw"), .client (.submit "18" 1 ⟨0, 0⟩), .client (.failCredits 1),
    .begin .standard .start, .poll] ++ cycle ++
  [.worker 0 .revert, .worker 0 .report, .poll, .wake] ++ cycle

theorem credited_once_retried : ∃ s : System,
    (System.start .empty).run? retriedCredit = some s ∧
      s.store.orders.map (·.status) = [.processed] ∧
      (creditsOf ((System.start .empty).log retriedCredit) 1).length ≤ 1 := by
  obtain ⟨s, hrun⟩ : ∃ s : System, (System.start .empty).run? retriedCredit = some s := ⟨_, rfl⟩
  obtain ⟨-, -, -, -, hcredits, -⟩ := credited_once hrun
  refine ⟨s, hrun, ?_, hcredits 1⟩
  cases hrun
  rfl

end Loyalty.Reconciliation
