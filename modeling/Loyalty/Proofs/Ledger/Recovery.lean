import Loyalty.Proofs.Ledger.Numbering
import Loyalty.Proofs.Ledger.Outcomes

/-!
# Recovery

A service that stops may leave orders in hand, and nobody takes up such an order again. When
the service starts, all of them are therefore made new (`releaseInFlight`), one after another, up to
the first for which that fails; what is done by then is not undone.

No order is made new by half a recovery all the same. A store fails as often in a row as it was
told to, so that a recovery fails at its first order or not at all (`releaseInFlight_recovery`, with
a case of `Store.Recovery` for each). A recovery that fails has used up one of the failures told, so
that it can be repeated until it succeeds, and then does what it would have done undisturbed
(`recovers_in_the_end`).
-/

namespace Loyalty

/-- The order after recovery: new if it was in hand. -/
def Order.recovered (o : Order) : Order :=
  if o.status = .processing then { o with status := .new } else o

theorem Order.recovered_status_ne (o : Order) : o.recovered.status ≠ .processing := by
  rw [recovered]
  split_ifs with h
  · simp
  · exact h

namespace Store

variable {s s' : Store} {orders : List Order} {n : Nat}

/-- The store with every order recovered. -/
def recovered (s : Store) : Store := { s with orders := s.orders.map Order.recovered }

/-- The store with every order new that has the id of one of these. -/
def releasing (s : Store) (orders : List Order) : Store :=
  { s with
    orders := s.orders.map fun o =>
      if o.id ∈ orders.map (·.id) then { o with status := .new } else o }

/-! ## Releasing some orders -/

theorem marks_dropMarkFault (s : Store) (status : OrderStatus) :
    (s.dropMarkFault status).faults.marks status = s.faults.marks status - 1 := by
  simp [dropMarkFault]

/-- Where nothing is told to fail, releasing does not stop before the last order. -/
theorem releaseAll_of_quiet (hquiet : s.faults.marks .new = 0)
    (hstored : ∀ o ∈ orders, (s.order? o.id).isSome) :
    s.releaseAll orders = (.ok (), s.releasing orders) := by
  induction orders generalizing s with
  | nil => simp [releaseAll, releasing]
  | cons order rest ih =>
    obtain ⟨horder, hrest⟩ := List.forall_mem_cons.1 hstored
    obtain ⟨o, ho⟩ := Option.isSome_iff_exists.1 horder
    have hkept : ∀ p ∈ rest, ((s.setStatus order.id .new).order? p.id).isSome := by
      intro p hp
      rw [setStatus, order?_updateOrder (by simp), Option.isSome_map]
      exact hrest p hp
    rw [releaseAll, release_of_found hquiet ho]
    simp only
    rw [ih (s := s.setStatus order.id .new) hquiet hkept]
    -- The first order made new, and then the rest, is the same as all of them at once.
    have horders : (s.setStatus order.id .new).releasing rest = s.releasing (order :: rest) := by
      simp only [releasing, setStatus, updateOrder, List.map_map, mk.injEq, and_true]
      refine List.map_congr_left fun o _ => ?_
      by_cases hid : o.id = order.id <;> simp [hid]
    rw [horders]

/-- Where a failure is told, releasing stops at the first order. -/
theorem releaseAll_of_told (htold : 0 < s.faults.marks .new) (order : Order) (rest : List Order) :
    s.releaseAll (order :: rest) =
      (fails (.internal (.markRefused order.id .new)), s.dropMarkFault .new) := by
  rw [releaseAll, release_of_told htold]

theorem releasing_ordersIn (hs : (s.orders.map (·.id)).Nodup) :
    s.releasing (s.ordersIn .processing) = s.recovered := by
  simp only [releasing, recovered, mk.injEq, and_true]
  refine List.map_congr_left fun o ho => ?_
  -- An order has the id of one that is in hand only if it is this one.
  have hmem : o.id ∈ (s.ordersIn .processing).map (·.id) ↔ o.status = .processing := by
    simp only [ordersIn, List.mem_map, List.mem_filter, decide_eq_true_eq]
    constructor
    · rintro ⟨p, ⟨hp, hstatus⟩, hid⟩
      rwa [List.inj_on_of_nodup_map hs hp ho hid] at hstatus
    · exact fun hstatus => ⟨o, ⟨ho, hstatus⟩, rfl⟩
  simp only [hmem, Order.recovered]

/-! ## One recovery -/

/-- What can come of a recovery. -/
inductive Recovery (s : Store) : Outcome Nat × Store → Prop
  /-- there is nothing to recover -/
  | idle (none : s.ordersIn .processing = []) : Recovery s (.ok 0, s)
  | done (quiet : s.faults.marks .new = 0) :
    Recovery s (.ok (s.ordersIn .processing).length, s.recovered)
  | refused (order : Order) (rest : List Order)
      (inHand : s.ordersIn .processing = order :: rest) (told : 0 < s.faults.marks .new) :
    Recovery s (fails (.internal (.markRefused order.id .new)), s.dropMarkFault .new)

theorem releaseInFlight_of_quiet (hs : (s.orders.map (·.id)).Nodup)
    (hquiet : s.faults.marks .new = 0) :
    s.releaseInFlight = (.ok (s.ordersIn .processing).length, s.recovered) := by
  have hstored : ∀ o ∈ s.ordersIn .processing, (s.order? o.id).isSome := fun o ho =>
    isSome_order?_iff.2 ⟨o, List.mem_of_mem_filter ho, rfl⟩
  rw [releaseInFlight, releaseAll_of_quiet hquiet hstored, releasing_ordersIn hs]

theorem releaseInFlight_of_none (hnone : s.ordersIn .processing = []) :
    s.releaseInFlight = (.ok 0, s) := by
  rw [releaseInFlight, hnone, releaseAll]
  rfl

theorem releaseInFlight_of_told {order : Order} {rest : List Order}
    (hinHand : s.ordersIn .processing = order :: rest) (htold : 0 < s.faults.marks .new) :
    s.releaseInFlight =
      (fails (.internal (.markRefused order.id .new)), s.dropMarkFault .new) := by
  rw [releaseInFlight, hinHand, releaseAll_of_told htold]

theorem releaseInFlight_recovery (hs : (s.orders.map (·.id)).Nodup) :
    s.Recovery s.releaseInFlight := by
  by_cases htold : 0 < s.faults.marks .new
  · cases hinHand : s.ordersIn .processing with
    | nil =>
      rw [releaseInFlight_of_none hinHand]
      exact .idle hinHand
    | cons order rest =>
      rw [releaseInFlight_of_told hinHand htold]
      exact .refused order rest hinHand htold
  · have hquiet : s.faults.marks .new = 0 := Nat.eq_zero_of_not_pos htold
    rw [releaseInFlight_of_quiet hs hquiet]
    exact .done hquiet

/-- Where nothing is in hand, there is nothing that recovery would change. -/
theorem recovered_of_none (hnone : s.ordersIn .processing = []) : s.recovered = s := by
  have horders : s.orders.map Order.recovered = s.orders := by
    refine (List.map_congr_left fun o ho => if_neg ?_).trans (List.map_id _)
    simpa using (List.filter_eq_nil_iff.1 hnone) o ho
  rw [recovered, horders]

theorem ordersIn_recovered (s : Store) : s.recovered.ordersIn .processing = [] := by
  simp [ordersIn, recovered, Order.recovered_status_ne]

/-- A recovery succeeds: every order that was in hand is counted and is new again, nothing else
    changes, and another recovery finds nothing to do. -/
structure Recovers (s : Store) (n : Nat) (s' : Store) : Prop where
  count : n = s.orders.countP (·.status = .processing)
  orders : s'.orders = s.orders.map fun o =>
    if o.status = .processing then { o with status := .new } else o
  rest : s' = { s with orders := s'.orders }
  noneInHand : ∀ o ∈ s'.orders, o.status ≠ .processing
  again : s'.releaseInFlight = (.ok 0, s')

/-- A recovery fails, with the failure of its first order: one failure fewer is told, and nothing
    else changes. -/
structure Refused (s : Store) (f : Failure) (s' : Store) : Prop where
  first : ∃ o, s.orders.find? (·.status = .processing) = some o ∧
    f = .internal (.markRefused o.id .new)
  rows : s'.rows = s.rows
  credits : s'.faults.credits = s.faults.credits
  marks_new : s'.faults.marks .new + 1 = s.faults.marks .new
  marks : ∀ status, status ≠ .new → s'.faults.marks status = s.faults.marks status

theorem recovers_recovered (s : Store) :
    s.Recovers (s.ordersIn .processing).length s.recovered where
  count := by rw [List.countP_eq_length_filter, ordersIn]
  orders := rfl
  rest := rfl
  noneInHand := List.forall_mem_map.2 fun o _ => o.recovered_status_ne
  again := releaseInFlight_of_none s.ordersIn_recovered

theorem Recovery.recovers (h : s.Recovery (.ok n, s')) : s.Recovers n s' := by
  have hall := s.recovers_recovered
  cases h with
  | idle hnone => rwa [hnone, recovered_of_none hnone] at hall
  | done => exact hall

theorem Recovery.refused_of_fails {f : Failure} (h : s.Recovery (fails f, s')) :
    s.Refused f s' := by
  cases h with
  | refused order rest hinHand htold =>
    refine ⟨⟨order, ?_, rfl⟩, rfl, rfl, ?_, fun status hne => if_neg hne⟩
    · rw [← List.head?_filter]
      exact congrArg List.head? hinHand
    · rw [marks_dropMarkFault]
      exact Nat.sub_add_cancel htold

/-! ## Repeated recovery -/

/-- Recovery is repeated until it succeeds: it fails so many times in a row, and then counts `n`
    orders and leaves the store `t`. -/
inductive Retries : Nat → Store → Nat → Store → Prop
  | succeeds {s t : Store} {n : Nat} (h : s.releaseInFlight = (.ok n, t)) : Retries 0 s n t
  | again {s s' t : Store} {n failed : Nat} {f : Failure}
    (h : s.releaseInFlight = (fails f, s')) (rest : Retries failed s' n t) :
    Retries (failed + 1) s n t

/-- How often recovery fails until it succeeds. -/
def recoveryFaults (s : Store) : Nat :=
  if s.ordersIn .processing = [] then 0 else s.faults.marks .new

/-- Recovery ends in the rows that it would have reached at once. -/
theorem retries_recovered (hs : (s.orders.map (·.id)).Nodup) :
    ∃ t, Retries s.recoveryFaults s (s.ordersIn .processing).length t ∧
      t.rows = s.recovered.rows := by
  cases hinHand : s.ordersIn .processing with
  | nil =>
    rw [recoveryFaults, if_pos hinHand, recovered_of_none hinHand]
    exact ⟨s, .succeeds (releaseInFlight_of_none hinHand), rfl⟩
  | cons order rest =>
    rw [recoveryFaults, if_neg (by simp [hinHand])]
    -- The orders stay as they are while recovery fails, and the failures told become fewer.
    induction hfaults : s.faults.marks .new generalizing s with
    | zero =>
      rw [← hinHand]
      exact ⟨s.recovered, .succeeds (releaseInFlight_of_quiet hs hfaults), rfl⟩
    | succ told ih =>
      have htold : 0 < s.faults.marks .new := by omega
      have hdrop : (s.dropMarkFault .new).faults.marks .new = told := by
        rw [marks_dropMarkFault, hfaults, Nat.add_sub_cancel]
      obtain ⟨t, hretries, hrows⟩ := ih (s := s.dropMarkFault .new) hs hinHand hdrop
      exact ⟨t, .again (releaseInFlight_of_told hinHand htold) hretries, hrows⟩

/-- A recovery does all or nothing, whatever was told to fail: it succeeds and makes every order in
    hand new, or it fails and changes no row. Repeated, it succeeds after as many failures as were
    told, with the count and the rows of a recovery for which nothing was. -/
theorem recovers_in_the_end (hs : s.Reachable) :
    (match s.releaseInFlight with
      | (.ok n, s') => s.Recovers n s'
      | (.error (.failure f), s') => s.Refused f s'
      | (.error .overflow, _) => False) ∧
    ∃ n t, Retries s.recoveryFaults s n t ∧ s.rows.releaseInFlight = (.ok n, t.rows) := by
  have hids := hs.numbered.nodup_orders
  constructor
  · have hrecovery := releaseInFlight_recovery hids
    split
    next n s' e => exact (e ▸ hrecovery).recovers
    next f s' e => exact (e ▸ hrecovery).refused_of_fails
    next s' e =>
      rw [e] at hrecovery
      cases hrecovery
  · obtain ⟨t, hretries, hrows⟩ := retries_recovered hids
    refine ⟨_, t, hretries, ?_⟩
    rw [hrows]
    exact releaseInFlight_of_quiet (s := s.rows) hids rfl

/-- Two of three orders are in hand, and the store is told to fail twice. The first recovery fails
    before the first of them, and the third succeeds. -/
theorem recovers_in_the_end_third :
    let s := empty.operateAll [.createUser "ann" "pw", .createOrder "18" 1 ⟨0, 0⟩,
      .createOrder "26" 1 ⟨0, 0⟩, .createOrder "34" 1 ⟨0, 0⟩, .mark 1 .processing,
      .mark 3 .processing, .failMarks .new 2]
    s.Refused (.internal (.markRefused 1 .new)) s.releaseInFlight.2 ∧ s.recoveryFaults = 2 ∧
      ∃ t, Retries 2 s 2 t ∧
        t.orders.map (fun o => (o.id, o.status)) = [(1, .new), (2, .new), (3, .new)] := by
  intro s
  obtain ⟨hone, n, t, hretries, hrows⟩ := recovers_in_the_end (s := s) ⟨_, rfl⟩
  have hundisturbed : s.rows.releaseInFlight = (.ok 2, s.rows.releaseInFlight.2) := rfl
  obtain ⟨hn, ht⟩ := Prod.mk.inj (hundisturbed.symm.trans hrows)
  cases hn
  refine ⟨hone, rfl, t, hretries, ?_⟩
  have horders : t.orders = s.rows.releaseInFlight.2.orders := (congrArg orders ht).symm
  rw [horders]
  rfl

end Store
end Loyalty
