import Loyalty.Proofs.Ledger.Numbering
import Loyalty.Reconciliation.System

/-!
# The log of a run

A reconciliation changes orders by single updates that it asks of the store: it
marks an order, or credits it (`Update`). Every move of the poller or of a
worker asks for one update at most (`System.update?`), and the *log* of a run is
the list of all of them, each with what came of it (`System.log`). What users do
is not in the log.

An update that is done changes its own order and no other
(`Update.order?_of_apply_ok`); one that is not done changes no row of the store.

A property of logs and systems that holds at the start of a run, and is kept by
every move, holds of the log and the system at its end (`System.run?_induct`).
-/

namespace Loyalty.Reconciliation

/-- A change of an order that is asked of the store. -/
inductive Update
  | mark (order : Order) (status : OrderStatus)
  | credit (order : Order) (points : Amount)
  deriving DecidableEq

namespace Update

/-- What the store makes of an update. -/
def apply (s : Store) : Update → Outcome Unit × Store
  | mark order status => s.mark order.id status
  | credit order points => s.credit order points

/-- The order that an update is about. -/
def order : Update → Order
  | mark order _ | credit order _ => order

/-- What an update makes of its order, if it is done. -/
def change : Update → Order → Order
  | mark _ status, o => { o with status }
  | credit _ points, o => { o with status := .processed, accrual := some points }

/-- The update by which an order is settled. -/
def settle (order : Order) : Settlement → Update
  | .credit points => credit order points
  | .refuse => mark order .invalid
  | .giveBack => mark order .new

theorem apply_settle (s : Store) (order : Order) (settlement : Settlement) :
    (settle order settlement).apply s = s.write order settlement := by
  cases settlement <;> rfl

@[simp] theorem order_settle (order : Order) (settlement : Settlement) :
    (settle order settlement).order = order := by
  cases settlement <;> rfl

theorem id_change (u : Update) (o : Order) : (u.change o).id = o.id := by
  cases u <;> rfl

variable {s s' : Store} {u : Update} {r : Outcome Unit}

/-- An update that is done changes its own order and no other. -/
theorem orders_of_apply_ok (h : u.apply s = (.ok (), s')) :
    s'.orders = (s.updateOrder u.order.id u.change).orders := by
  cases u with
  | mark order status =>
    rcases s.mark_spec order.id status with ⟨e, -, -⟩ | ⟨_, t, e, -⟩ <;> rw [apply, e] at h <;>
      cases h
    rfl
  | credit order points =>
    rcases s.credit_spec order points with ⟨b, b', -, -, -, e⟩ | ⟨_, t, e, -⟩ | ⟨b, -, -, e⟩ <;>
      rw [apply, e] at h <;> cases h
    rfl

theorem order?_of_apply_ok (h : u.apply s = (.ok (), s')) (id : Int) :
    s'.order? id = if id = u.order.id then (s.order? id).map u.change else s.order? id := by
  rw [Store.order?_congr (orders_of_apply_ok h)]
  split_ifs with hid
  · subst hid
    cases ho : s.order? u.order.id with
    | none =>
      rw [Store.order?_updateOrder u.id_change, ho]
      rfl
    | some o => rw [Store.order?_updateOrder_self u.id_change ho, Option.map_some]
  · exact Store.order?_updateOrder_of_ne u.id_change hid

/-- An update that is not done changes no row. -/
theorem rows_of_apply_error {e : Stop} (h : u.apply s = (.error e, s')) : s'.rows = s.rows := by
  cases u with
  | mark order status =>
    rcases s.mark_spec order.id status with ⟨e, -, -⟩ | ⟨_, t, e, ht⟩ <;> rw [apply, e] at h <;>
      cases h
    exact ht
  | credit order points =>
    rcases s.credit_spec order points with ⟨b, b', -, -, -, e⟩ | ⟨_, t, e, ht⟩ | ⟨b, -, -, e⟩ <;>
      rw [apply, e] at h <;> cases h
    · exact ht
    · rfl

/-- Only credits overflow. -/
theorem apply_mark_ne_overflow {order : Order} {status : OrderStatus} :
    (mark order status).apply s ≠ (.error .overflow, s') := by
  intro h
  rcases s.mark_spec order.id status with ⟨e, -, -⟩ | ⟨_, t, e, -⟩ <;> rw [apply, e] at h <;>
    cases h

theorem numbered_apply (hs : s.Numbered) (h : u.apply s = (r, s')) : s'.Numbered := by
  rw [← show (u.apply s).2 = s' from by rw [h]]
  cases u with
  | mark order status => exact hs.operate (.mark order.id status)
  | credit order points => exact hs.operate (.credit order points)

end Update

/-- An update and what came of it. -/
abbrev Entry := Update × Outcome Unit

namespace System

/-- The update that a move asks for, if it does. -/
def update? (s : System) : Move → Option Update
  | .poll =>
    match s.poller with
    | .recovering (order :: _) _ => some (.mark order .new)
    | .dispatching (order :: _) =>
      if s.shutdown.requested then none else some (.mark order .processing)
    | .sending order _ => if s.queueClosed then some (.mark order .new) else none
    | .draining _ (some order) => some (.mark order .new)
    | _ => none
  | .handBack =>
    match s.poller with
    | .sending order _ => some (.mark order .new)
    | _ => none
  | .worker i (.answer reply) =>
    match s.workers[i]? with
    | some (.resolving order) => some (.settle order (.ofReply reply))
    | _ => none
  | .worker i .revert =>
    match s.workers[i]? with
    | some (.reverting order _) => some (.mark order .new)
    | _ => none
  | _ => none

/-- What a move adds to the log. -/
def logged? (s : System) (m : Move) : Option Entry :=
  (s.update? m).map fun u => (u, (u.apply s.store).1)

/-- The updates that some moves ask for, each with what came of it. -/
def log (s : System) : List Move → List Entry
  | [] => []
  | m :: ms =>
    (s.logged? m).toList ++
      match s.step? m with
      | some s => s.log ms
      | none => []

variable {s s' : System} {m : Move} {ms : List Move}

theorem logged?_eq_none (h : s.update? m = none) : s.logged? m = none := by rw [logged?, h]; rfl

theorem logged?_eq_some {u : Update} {r : Outcome Unit} {store : Store} (h : s.update? m = some u)
    (hu : u.apply s.store = (r, store)) : s.logged? m = some (u, r) := by
  rw [logged?, h, Option.map_some, hu]

theorem run?_cons (h : s.run? (m :: ms) = some s') :
    ∃ t, s.step? m = some t ∧ t.run? ms = some s' := by
  rw [run?] at h
  exact Option.bind_eq_some_iff.1 h

theorem run?_of_step? (h : s.step? m = some s') : s.run? (m :: ms) = s'.run? ms := by
  rw [run?, h, Option.bind_some]

theorem log_cons (h : s.step? m = some s') :
    s.log (m :: ms) = (s.logged? m).toList ++ s'.log ms := by
  rw [log, h]

theorem log_append {ms' : List Move} (h : s.run? ms = some s') :
    s.log (ms ++ ms') = s.log ms ++ s'.log ms' := by
  induction ms generalizing s with
  | nil =>
    cases h
    rfl
  | cons m ms ih =>
    obtain ⟨t, ht, h⟩ := run?_cons h
    rw [List.cons_append, log_cons ht, log_cons ht, ih h, List.append_assoc]

/-- Induction along a run: the log grows by what each move adds to it. -/
theorem run?_induct {P : List Entry → System → Prop} (hrun : s.run? ms = some s')
    (hstart : P [] s)
    (hstep : ∀ {log t m t'}, P log t → t.step? m = some t' → P (log ++ (t.logged? m).toList) t') :
    P (s.log ms) s' := by
  -- By induction on the moves, with any log before them.
  suffices ∀ log t, P log t → t.run? ms = some s' → P (log ++ t.log ms) s' from
    this [] s hstart hrun
  clear hrun hstart
  induction ms with
  | nil =>
    intro log t ht hrun
    cases hrun
    rwa [System.log, List.append_nil]
  | cons m ms ih =>
    intro log t ht hrun
    obtain ⟨t', ht', hrun⟩ := run?_cons hrun
    rw [System.log, ht', ← List.append_assoc]
    exact ih _ t' (hstep ht ht') hrun

end System
end Loyalty.Reconciliation
