import Loyalty.Proofs.Reconciliation.Log
import Loyalty.Proofs.Reconciliation.Steps
import Mathlib.Data.List.Perm.Basic

/-!
# Where orders wait

Orders wait in several places of a reconciliation: in the hand of the poller, in
the queue, and in the hands of the workers. All of them together are the orders
*in flight* (`System.inFlight`); *ahead* of the poller are those of its cycle
that it has not marked yet (`System.ahead`).

Outside the time between the recovery and the end of the workers, no worker is
at work, and the queue is empty before and after. This is kept by every move
(`System.Orderly`, `Orderly.step?`), as is the room of the queue
(`System.Bounded`, `Bounded.step?`).
-/

namespace Loyalty.Reconciliation

/-- The orders that the poller has in hand. -/
def Poller.inHand : Poller → List Order
  | recovering rest _ => rest
  | sending order _ => [order]
  | draining _ (some order) => [order]
  | _ => []

/-- The orders of its cycle that the poller has not marked yet. -/
def Poller.ahead : Poller → List Order
  | dispatching rest | sending _ rest => rest
  | _ => []

/-- The order that a worker has in hand. -/
def Worker.inHand : Worker → Option Order
  | resolving order | reverting order _ => some order
  | _ => none

namespace System

/-- The orders in flight. -/
def inFlight (s : System) : List Order :=
  s.poller.inHand ++ s.queue ++ s.workers.filterMap Worker.inHand

/-- The orders ahead of the poller. -/
def ahead (s : System) : List Order := s.poller.ahead

variable {s s' : System} {m : Move} {i : Nat} {w w' : Worker}

/-! ## The phases of a reconciliation -/

/-- No worker is at work before the recovery is over or once the poller empties
    the queue, and the queue is empty before and after. -/
def Orderly (s : System) : Prop :=
  match s.poller with
  | .idle | .recovering .. => s.workers = [] ∧ s.queue = []
  | .draining .. => s.workers.all Worker.isOver
  | .returned _ => s.workers.all Worker.isOver ∧ s.queue = []
  | _ => True

theorem isOver_of_all {ws : List Worker} (h : ws.all Worker.isOver) (hw : ws[i]? = some w) :
    w.isOver = true :=
  List.all_eq_true.1 h w (List.mem_of_getElem? hw)

theorem inFlight_of_begin? {setup : Setup} {signal : Shutdown}
    (h : s.begin? setup signal = some s') : s'.inFlight = s.store.ordersIn .processing := by
  obtain ⟨-, hp, hw, hq⟩ := begin?_spec h
  simp [inFlight, hp, hw, hq, Poller.inHand]

theorem Orderly.begin? {setup : Setup} {signal : Shutdown} (h : s.begin? setup signal = some s') :
    s'.Orderly := by
  obtain ⟨-, hp, hw, hq⟩ := begin?_spec h
  rw [Orderly, hp]
  exact ⟨hw, hq⟩

/-- A worker that has not ended can do what it likes where one is at work. -/
theorem Orderly.worker (hs : s.Orderly) (hw : s.workers[i]? = some w) (hnot : w.isOver = false)
    (hp : s'.poller = s.poller) : s'.Orderly := by
  unfold Orderly at hs ⊢
  rw [hp]
  -- Where the phase says something of the workers, there is no such worker.
  cases hpoller : s.poller <;> rw [hpoller] at hs
  case idle | recovering => simp [hs.1] at hw
  case draining => simp [isOver_of_all hs hw] at hnot
  case returned => simp [isOver_of_all hs.1 hw] at hnot
  all_goals trivial

theorem Orderly.step? (hs : s.Orderly) (h : s.step? m = some s') : s'.Orderly := by
  cases step?_step h with
  | begin setup signal _ begins => exact Orderly.begin? begins
  | recover order rest count store poller =>
    rw [Orderly, poller] at hs
    exact hs
  | recoveryFails order rest count e store poller =>
    rw [Orderly, poller] at hs
    exact ⟨by rw [hs.1]; rfl, hs.2⟩
  | join failure poller allOver => exact allOver
  | takeOut failure order rest poller =>
    rw [Orderly, poller] at hs
    exact hs
  | putBack failure order poller =>
    rw [Orderly, poller] at hs
    simpa [Orderly] using hs
  | finish failure poller queue =>
    rw [Orderly, poller] at hs
    exact ⟨hs, queue⟩
  | take _ _ _ worker | quit _ worker | settle _ _ _ _ worker | overflow _ _ _ _ worker
  | giveBackFails _ _ _ _ _ worker | settleFails _ _ _ _ _ worker | revert _ _ _ _ worker
  | report _ _ worker | giveUp _ _ worker => exact hs.worker worker rfl rfl
  | renew | collect | client | requestShutdown | abandonShutdown => exact hs
  | _ => trivial

/-- Where all is over and no worker was started, nothing goes on but a new
    reconciliation. -/
theorem step?_of_returned {failure : Option Stop} (hp : s.poller = .returned failure)
    (hw : s.workers = []) (h : s.step? m = some s') :
    (∃ setup signal, m = .begin setup signal) ∨
      (s'.poller = s.poller ∧ s'.workers = s.workers) := by
  cases step?_step h with
  | begin setup signal => exact .inl ⟨setup, signal, rfl⟩
  | renew | client | requestShutdown | abandonShutdown => exact .inr ⟨rfl, rfl⟩
  | take _ _ _ worker | quit _ worker | settle _ _ _ _ worker | overflow _ _ _ _ worker
  | giveBackFails _ _ _ _ _ worker | settleFails _ _ _ _ _ worker | revert _ _ _ _ worker
  | report _ _ worker | giveUp _ _ worker => simp [hw] at worker
  | seeRequest poller => simp [hp] at poller
  | recover _ _ _ _ poller | recoveryFails _ _ _ _ _ poller | recovered _ poller | cycle poller
  | claim _ _ _ poller | claimFails _ _ _ _ poller | send _ _ poller | sendFails _ _ poller
  | handBack _ _ poller | pause poller | collect _ _ poller | wake poller | leave poller
  | join _ poller | takeOut _ _ _ poller | putBack _ _ poller | finish _ poller =>
    simp [hp] at poller

/-! ## The room of the queue -/

/-- The queue holds no more orders than it has room for. -/
def Bounded (s : System) : Prop := s.queue.length ≤ s.setup.queueRoom

theorem Bounded.begin? {setup : Setup} {signal : Shutdown} (h : s.begin? setup signal = some s') :
    s'.Bounded := by
  obtain ⟨-, -, -, hq⟩ := begin?_spec h
  rw [Bounded, hq]
  exact Nat.zero_le _

theorem Bounded.step? (hs : s.Bounded) (h : s.step? m = some s') : s'.Bounded := by
  unfold Bounded at hs ⊢
  cases step?_step h with
  | begin setup signal _ begins => exact Bounded.begin? begins
  | send order rest poller openQueue room =>
    -- The poller puts an order in where there is room only.
    rwa [List.length_append, List.length_singleton, Nat.succ_le_iff]
  | take _ _ _ _ queue | takeOut _ _ _ _ queue =>
    rw [queue, List.length_cons] at hs
    exact Nat.le_of_succ_le hs
  | sendFails | handBack | putBack => simpa using hs
  | _ => exact hs

/-! ## Hands of workers -/

/-- The hands of the workers, with one of them apart. -/
theorem inHand_perm {ws : List Worker} (h : ws[i]? = some w) :
    (ws.filterMap Worker.inHand).Perm
      (w.inHand.toList ++ (ws.eraseIdx i).filterMap Worker.inHand) := by
  obtain ⟨hi, rfl⟩ := List.getElem?_eq_some_iff.1 h
  refine ((List.getElem_cons_eraseIdx_perm hi).symm.filterMap _).trans (.of_eq ?_)
  rw [List.filterMap_cons]
  cases ws[i].inHand <;> rfl

theorem inHand_set_perm {ws : List Worker} (h : ws[i]? = some w) :
    ((ws.set i w').filterMap Worker.inHand).Perm
      (w'.inHand.toList ++ (ws.eraseIdx i).filterMap Worker.inHand) := by
  obtain ⟨hi, rfl⟩ := List.getElem?_eq_some_iff.1 h
  refine ((List.set_perm_cons_eraseIdx hi w').filterMap _).trans (.of_eq ?_)
  rw [List.filterMap_cons]
  cases w'.inHand <;> rfl

theorem mem_inFlight_of_worker {order : Order} (h : s.workers[i]? = some w)
    (hw : w.inHand = some order) : order ∈ s.inFlight :=
  List.mem_append_right _ (List.mem_filterMap.2 ⟨w, List.mem_of_getElem? h, hw⟩)

/-- When a worker goes on, the orders that it does not have in hand stay where
    they are. -/
theorem inFlight_setWorker (h : s.workers[i]? = some w) (w' : Worker) :
    ∃ others, s.inFlight.Perm (w.inHand.toList ++ others) ∧
      (s.setWorker i w').inFlight.Perm (w'.inHand.toList ++ others) := by
  refine ⟨s.poller.inHand ++ s.queue ++ (s.workers.eraseIdx i).filterMap Worker.inHand, ?_, ?_⟩
  · exact ((inHand_perm h).append_left _).trans (List.perm_append_comm_assoc _ _ _)
  · exact ((inHand_set_perm h).append_left _).trans (List.perm_append_comm_assoc _ _ _)

/-- A worker lets its order go. -/
theorem inFlight_letGo {order : Order} (h : s.workers[i]? = some w) (hw : w.inHand = some order)
    (hw' : w'.inHand = none) : s.inFlight.Perm (order :: (s.setWorker i w').inFlight) := by
  obtain ⟨others, hs, hs'⟩ := inFlight_setWorker h w'
  rw [hw] at hs
  rw [hw'] at hs'
  exact hs.trans (hs'.symm.cons order)

/-- Workers that have ended have nothing in hand. -/
theorem inHand_of_isOver {ws : List Worker} (h : ws.all Worker.isOver) :
    ws.filterMap Worker.inHand = [] := by
  rw [List.filterMap_eq_nil_iff]
  intro w hw
  have := List.all_eq_true.1 h w hw
  cases w <;> simp_all [Worker.isOver, Worker.inHand]

end System

end Loyalty.Reconciliation
