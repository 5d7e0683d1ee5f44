import Loyalty.Proofs.Reconciliation.Custody

/-!
# The life of one order

The store does what it is told, whatever the status of an order. It is the
custody of orders that makes every update fit: only new orders are claimed, and
only orders that are processing are released or settled, each as it is stored
(`Custody.storeStep`).

So what a move does to the order of one id is one of six turns (`Turn`): the
order stays as it is, comes, is claimed, is released, is refused or is
credited.
-/

namespace Loyalty

/-- Whether an order may go from one status to another. -/
def OrderStatus.leadsTo : OrderStatus → OrderStatus → Bool
  | new, processing => true
  | processing, new | processing, processed | processing, invalid => true
  | _, _ => false

namespace Reconciliation

variable {s s' : System} {m : Move} {id : Int} {r : Option Entry} {o o' : Order}

/-! ## What a move does to the store -/

/-- An update that fits its order: a new one is claimed, and one that is
    processing is released, refused or credited. -/
inductive Update.Fits : Update → Prop
  | claim (order : Order) (new : order.status = .new) : Fits (.mark order .processing)
  | release (order : Order) (processing : order.status = .processing) : Fits (.mark order .new)
  | refuse (order : Order) (processing : order.status = .processing) : Fits (.mark order .invalid)
  | credit (order : Order) (points : Amount) (processing : order.status = .processing) :
      Fits (.credit order points)

/-- An order that an update fits has no final status. -/
theorem Update.Fits.not_isFinal {u : Update} (h : u.Fits) : u.order.status.isFinal = false := by
  cases h with
  | claim order new => simp [Update.order, new, OrderStatus.isFinal]
  | release order processing => simp [Update.order, processing, OrderStatus.isFinal]
  | refuse order processing => simp [Update.order, processing, OrderStatus.isFinal]
  | credit order points processing => simp [Update.order, processing, OrderStatus.isFinal]

/-- What a move makes of a store `s`, with what it adds to the log: nothing, what
    a user does, or an update that fits its order, which is as stored. -/
inductive StoreStep (s s' : Store) : Option Entry → Prop
  | stays (store : s' = s) : StoreStep s s' none
  | client (move : ClientMove) (store : s' = move.apply s) : StoreStep s s' none
  | update (u : Update) (result : Outcome Unit) (store : u.apply s = (result, s'))
      (stored : s.order? u.order.id = some u.order) (fits : u.Fits) :
      StoreStep s s' (some (u, result))

theorem Custody.storeStep (hs : Custody s) (h : s.step? m = some s') :
    StoreStep s.store s'.store (s.logged? m) := by
  have heffect := System.step?_effect hs.orderly h
  generalize s.logged? m = r at heffect
  -- Whether its update fits an order depends on where the order is.
  have hflight : ∀ order ∈ s.inFlight,
      s.store.order? order.id = some order ∧ order.status = .processing :=
    fun order ho => ⟨hs.inFlight.stored order ho, hs.inFlight.status_eq order ho⟩
  have hahead : ∀ order ∈ s.ahead, s.store.order? order.id = some order ∧ order.status = .new :=
    fun order ho => ⟨hs.ahead.stored order ho, hs.ahead.status_eq order ho⟩
  have hsettle : ∀ order ∈ s.inFlight, ∀ settlement ≠ .giveBack,
      s.store.order? (Update.settle order settlement).order.id =
          some (Update.settle order settlement).order ∧
        (Update.settle order settlement).Fits := by
    intro order ho settlement hfinal
    obtain ⟨horder, hprocessing⟩ := hflight order ho
    refine ⟨by rwa [Update.order_settle], ?_⟩
    cases settlement with
    | credit points => exact .credit order points hprocessing
    | refuse => exact .refuse order hprocessing
    | giveBack => exact absurd rfl hfinal
  cases heffect with
  | begin store inFlight ahead => exact .stays store
  | move store inFlight ahead => exact .stays store
  | client move store inFlight ahead => exact .client move store
  | claim order ahead store inFlight =>
    obtain ⟨horder, hnew⟩ := hahead order (ahead ▸ List.mem_cons_self)
    exact .update _ _ store horder (.claim order hnew)
  | claimFails order e store mem inFlight ahead =>
    obtain ⟨horder, hnew⟩ := hahead order mem
    exact .update _ _ store horder (.claim order hnew)
  | release order result store inFlight ahead =>
    obtain ⟨horder, hprocessing⟩ := hflight order (inFlight.mem_iff.2 List.mem_cons_self)
    exact .update _ _ store horder (.release order hprocessing)
  | recoveryFails order e store mem inFlight ahead workers poller =>
    obtain ⟨horder, hprocessing⟩ := hflight order mem
    exact .update _ _ store horder (.release order hprocessing)
  | settle order settlement result final done store inFlight ahead =>
    obtain ⟨hstored, hfits⟩ :=
      hsettle order (inFlight.mem_iff.2 List.mem_cons_self) settlement final
    exact .update _ _ store hstored hfits
  | settleFails order settlement f final store mem inFlight ahead =>
    obtain ⟨hstored, hfits⟩ := hsettle order mem settlement final
    exact .update _ _ store hstored hfits

/-! ## Turns -/

/-- What a move does to the order of an id, with what it adds to the log. -/
inductive Turn (id : Int) : Option Order → Option Order → Option Entry → Prop
  /-- No update of it is done. -/
  | stays (order? : Option Order) (r : Option Entry)
      (other : ∀ u, r = some (u, .ok ()) → u.order.id ≠ id) : Turn id order? order? r
  /-- A user submits it. -/
  | comes (order : Order) (new : order.status = .new) (accrual : order.accrual = none) :
      Turn id none (some order) none
  | claimed (order : Order) (id_eq : order.id = id) (new : order.status = .new) :
      Turn id (some order) (some { order with status := .processing })
        (some (.mark order .processing, .ok ()))
  | released (order : Order) (id_eq : order.id = id) (processing : order.status = .processing) :
      Turn id (some order) (some { order with status := .new }) (some (.mark order .new, .ok ()))
  | refused (order : Order) (id_eq : order.id = id) (processing : order.status = .processing) :
      Turn id (some order) (some { order with status := .invalid })
        (some (.mark order .invalid, .ok ()))
  | credited (order : Order) (points : Amount) (id_eq : order.id = id)
      (processing : order.status = .processing) :
      Turn id (some order) (some { order with status := .processed, accrual := some points })
        (some (.credit order points, .ok ()))

theorem Turn.stays_of_none (order? : Option Order) : Turn id order? order? none :=
  .stays order? none fun u hu => by cases hu

theorem Update.Fits.turn {u : Update} (h : u.Fits) :
    Turn u.order.id (some u.order) (some (u.change u.order)) (some (u, .ok ())) := by
  cases h with
  | claim order new => exact .claimed order rfl new
  | release order processing => exact .released order rfl processing
  | refuse order processing => exact .refused order rfl processing
  | credit order points processing => exact .credited order points rfl processing

theorem StoreStep.turn {store store' : Store} (h : StoreStep store store' r) (id : Int) :
    Turn id (store.order? id) (store'.order? id) r := by
  cases h with
  | stays hstore =>
    rw [hstore]
    exact .stays_of_none _
  | client move hstore =>
    rw [hstore]
    cases ho : store.order? id with
    | some o =>
      rw [move.order?_apply ho]
      exact .stays_of_none _
    | none =>
      cases ho' : (move.apply store).order? id with
      | none => exact .stays_of_none _
      | some o =>
        obtain ⟨hnew, haccrual⟩ := move.new_of_order?_apply ho ho'
        exact .comes o hnew haccrual
  | update u result hu hstored hfits =>
    cases result with
    | error e =>
      rw [Store.order?_of_rows (Update.rows_of_apply_error hu)]
      exact .stays _ _ fun v hv => by cases hv
    | ok _ =>
      rw [Update.order?_of_apply_ok hu]
      split_ifs with hid
      · rw [hid, hstored]
        exact hfits.turn
      · refine .stays _ _ fun v hv => ?_
        cases hv
        exact fun h => hid h.symm

theorem Custody.turn (hs : Custody s) (h : s.step? m = some s') (id : Int) :
    Turn id (s.store.order? id) (s'.store.order? id) (s.logged? m) :=
  (hs.storeStep h).turn id

namespace Turn

/-- An order that is there stays there, and its status stays or goes one step on. -/
theorem leadsTo {order? : Option Order} (h : Turn id (some o) order? r) :
    ∃ o', order? = some o' ∧ (o'.status = o.status ∨ o.status.leadsTo o'.status) := by
  cases h with
  | stays => exact ⟨o, rfl, .inl rfl⟩
  | claimed _ id_eq new => exact ⟨_, rfl, .inr (by rw [new]; rfl)⟩
  | released _ id_eq processing => exact ⟨_, rfl, .inr (by rw [processing]; rfl)⟩
  | refused _ id_eq processing => exact ⟨_, rfl, .inr (by rw [processing]; rfl)⟩
  | credited _ points id_eq processing => exact ⟨_, rfl, .inr (by rw [processing]; rfl)⟩

theorem new_of_none (h : Turn id none (some o) r) : o.status = .new := by
  cases h
  assumption

/-- An order that is settled stays as it is. -/
theorem final {order? : Option Order} (h : Turn id (some o) order? r) (ho : o.status.isFinal) :
    order? = some o := by
  cases h with
  | stays => rfl
  | claimed _ id_eq new => simp [new, OrderStatus.isFinal] at ho
  | released _ id_eq processing => simp [processing, OrderStatus.isFinal] at ho
  | refused _ id_eq processing => simp [processing, OrderStatus.isFinal] at ho
  | credited _ points id_eq processing => simp [processing, OrderStatus.isFinal] at ho

end Turn

end Reconciliation
end Loyalty
