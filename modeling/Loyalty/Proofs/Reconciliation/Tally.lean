import Loyalty.Proofs.Reconciliation.Custody
import Loyalty.Proofs.Reconciliation.Stopping

/-!
# Counting orders

Every order that a reconciliation recovers or claims is in flight until it is counted: by a
worker that is done with it, or by the poller that makes it new again. What it adds to the
counts (`System.counts_of_run?`) and what is in flight are therefore in balance at any time
(`System.Tallied`), as long as the poller can make orders new again and no credit overflows
(`Smooth`): an order that cannot be made new again, and one whose worker is broken off,
leave without being counted.

Without a shutdown, the poller makes no order new again but those that it recovers: no
worker ends before there is nothing left to do, so the poller finds the queue empty when it
comes to empty it (`System.Undisturbed`).

* `counts_of_step?`, `counts_of_run?`: no move takes anything back that was counted;
* `Tallied.step?`, `tallied_of_run?`: every move keeps the balance;
* `Undisturbed.step?`, `undisturbed_of_run?`: every move keeps the workers at work;
* `recovers_of_run?`: the recovery brings back every order that it has in hand.
-/

namespace Loyalty.Reconciliation

/-- Whether the poller, about to put an order into the queue, sees the shutdown. -/
def Move.handsBack : Move → Bool
  | handBack => true
  | _ => false

namespace Stats

/-- What was counted first, and what was counted then. -/
instance : Add Stats where
  add m n :=
    { cycles := m.cycles + n.cycles
      dispatched := m.dispatched + n.dispatched
      processed := m.processed + n.processed
      invalidated := m.invalidated + n.invalidated
      retried := m.retried + n.retried
      failed := m.failed + n.failed
      released := m.released + n.released }

theorem zero_add (n : Stats) : zero + n = n := by
  refine (mk.injEq ..).mpr ⟨?_, ?_, ?_, ?_, ?_, ?_, ?_⟩ <;> exact Nat.zero_add _

theorem add_assoc (k m n : Stats) : k + m + n = k + (m + n) := by
  refine (mk.injEq ..).mpr ⟨?_, ?_, ?_, ?_, ?_, ?_, ?_⟩ <;> exact Nat.add_assoc ..

theorem settled_eq_add (n : Stats) (settlement : Settlement) :
    n.settled settlement = n + zero.settled settlement := by
  cases settlement <;> rfl

/-- The orders that workers are done with. -/
def handled (n : Stats) : Nat := n.processed + n.invalidated + n.retried + n.failed

theorem handled_add (m n : Stats) : (m + n).handled = m.handled + n.handled := by
  change m.processed + n.processed + (m.invalidated + n.invalidated) + (m.retried + n.retried) +
    (m.failed + n.failed) = m.handled + n.handled
  simp only [handled]
  omega

end Stats

/-- The orders that the poller is going to count as released: those of the recovery,
    which are counted when it is over, and one taken out of the queue. -/
def Poller.held : Poller → Nat
  | recovering rest count => count + rest.length
  | draining _ (some _) => 1
  | _ => 0

/-- Whether no worker was started yet. -/
def Poller.isRecovering : Poller → Bool
  | idle | recovering .. => true
  | _ => false

/-- Orders are made new again whenever that is asked for, and no credit overflows. -/
structure Smooth (log : List Entry) : Prop where
  renews : ∀ order r, (.mark order .new, r) ∈ log → r = .ok ()
  fits : ∀ u, (u, .error .overflow) ∉ log

namespace Smooth

variable {log log' : List Entry} {order : Order} {e : Stop} {u : Update} {r : Option Entry}

theorem left (h : Smooth (log ++ log')) : Smooth log :=
  ⟨fun order r hmem => h.renews order r (List.mem_append_left log' hmem),
    fun u hmem => h.fits u (List.mem_append_left log' hmem)⟩

theorem right (h : Smooth (log ++ log')) : Smooth log' :=
  ⟨fun order r hmem => h.renews order r (List.mem_append_right log hmem),
    fun u hmem => h.fits u (List.mem_append_right log hmem)⟩

theorem renewed {result : Outcome Unit} (h : Smooth r.toList)
    (hr : r = some (.mark order .new, result)) : result = .ok () :=
  h.renews order result (by simp [hr])

theorem ne_overflow (h : Smooth r.toList) : r ≠ some (u, .error .overflow) := by
  rintro rfl
  exact h.fits u List.mem_cons_self

end Smooth

namespace System

variable {s s' : System} {m : Move} {moves : List Move} {base : Stats} {n h i : Nat}
  {w w' : Worker} {order : Order}

/-! ## Counting on -/

/-- A move adds to the counts, unless another reconciler takes over. -/
theorem counts_of_step? (hm : m ≠ .renew) (hstep : s.step? m = some s') :
    ∃ counted, s'.stats = s.stats + counted := by
  have hrelease (order : Order) : ∃ counted, (s.release order).stats = s.stats + counted := by
    rw [release]
    split
    · exact ⟨{ Stats.zero with released := 1 }, rfl⟩
    · exact ⟨.zero, rfl⟩
  cases step?_step hstep with
  | renew => exact absurd rfl hm
  | begin setup signal _ begins => exact ⟨.zero, stats_of_begin? begins⟩
  | recovered count => exact ⟨{ Stats.zero with released := count }, rfl⟩
  | cycle => exact ⟨{ Stats.zero with cycles := 1 }, rfl⟩
  | send => exact ⟨{ Stats.zero with dispatched := 1 }, rfl⟩
  | sendFails order | handBack order | putBack _ order => exact hrelease order
  | settle i order reply => exact ⟨_, s.stats.settled_eq_add (.ofReply reply)⟩
  | giveBackFails | revert => exact ⟨Stats.zero.failure, rfl⟩
  | _ => exact ⟨.zero, rfl⟩

theorem counts_of_run? (hrenew : .renew ∉ moves) (hrun : s.run? moves = some s') :
    ∃ counted, s'.stats = s.stats + counted := by
  induction moves generalizing s with
  | nil =>
    cases hrun
    exact ⟨.zero, rfl⟩
  | cons m moves ih =>
    obtain ⟨t, ht, hrun⟩ := run?_cons hrun
    rw [List.mem_cons, not_or] at hrenew
    obtain ⟨first, hfirst⟩ := counts_of_step? (Ne.symm hrenew.1) ht
    obtain ⟨later, hlater⟩ := ih hrenew.2 hrun
    exact ⟨first + later, by rw [hlater, hfirst, Stats.add_assoc]⟩

/-! ## The balance -/

/-- The orders that are still to be counted. -/
def outstanding (s : System) : Nat :=
  s.poller.held + s.queue.length + (s.workers.filterMap Worker.inHand).length

/-- The `n` orders that a reconciliation found processing, those that it gave to workers
    and the `h` that it handed back before that are counted or still to be counted. What was
    counted before it began is `base`. -/
def Tallied (base : Stats) (n h : Nat) (s : System) : Prop :=
  s.stats.dispatched + (n + base.handled + base.released) + h =
    base.dispatched + s.stats.handled + s.stats.released + s.outstanding

/-- An order is made new again, and counted, wherever the poller asks for it. -/
theorem release_of_smooth (order : Order) (h : Smooth (s.logged? m).toList)
    (hu : s.update? m = some (.mark order .new)) :
    s.release order = { s with
      store := (s.store.release order).2
      stats := { s.stats with released := s.stats.released + 1 } } := by
  have hdone : (s.store.release order).1 = .ok () := h.renewed (by rw [logged?, hu]; rfl)
  rw [release]
  split
  next store hr => rw [hr]
  next e store hr =>
    rw [hr] at hdone
    cases hdone

/-- The recovery does not stop at an order. -/
theorem not_recoveryFails {rest : List Order} {count : Nat} {e : Stop} {store : Store}
    (h : Smooth (s.logged? .poll).toList) (hp : s.poller = .recovering (order :: rest) count) :
    s.store.release order ≠ (.error e, store) := by
  intro hfails
  have hlogged : s.logged? .poll = some (.mark order .new, .error e) :=
    logged?_eq_some (by simp [update?, hp]) hfails
  cases h.renewed hlogged

/-- No worker is broken off. -/
theorem not_overflow {reply : Reply} {store : Store}
    (h : Smooth (s.logged? (.worker i (.answer reply))).toList)
    (hw : s.workers[i]? = some (.resolving order)) :
    s.store.write order (.ofReply reply) ≠ (.error .overflow, store) := by
  intro hoverflows
  exact h.ne_overflow (logged?_of_answer hw hoverflows)

/-- When a worker goes on, the hands of the workers hold more or less by what its own does. -/
theorem length_inHand_set {ws : List Worker} (h : ws[i]? = some w) (w' : Worker) :
    ((ws.set i w').filterMap Worker.inHand).length + w.inHand.toList.length =
      (ws.filterMap Worker.inHand).length + w'.inHand.toList.length := by
  rw [(inHand_perm h).length_eq, (inHand_set_perm h).length_eq, List.length_append,
    List.length_append]
  omega

/-- A worker that has settled an order is done with it. -/
theorem handled_settled (n : Stats) (settlement : Settlement) :
    (n.settled settlement).handled = n.handled + 1 := by
  cases settlement <;> simp only [Stats.settled, Stats.handled] <;> omega

/-- So is one that could not settle it. -/
theorem handled_failure (n : Stats) : n.failure.handled = n.handled + 1 := by
  simp only [Stats.failure, Stats.handled]
  omega

@[simp] theorem dispatched_settled (n : Stats) (settlement : Settlement) :
    (n.settled settlement).dispatched = n.dispatched := by
  cases settlement <;> rfl

@[simp] theorem released_settled (n : Stats) (settlement : Settlement) :
    (n.settled settlement).released = n.released := by
  cases settlement <;> rfl

/-- A reconciliation begins with the orders that its recovery is about. -/
theorem tallied_of_begin? {setup : Setup} {signal : Shutdown}
    (h : s.begin? setup signal = some s') :
    s'.Tallied s.stats (s.store.ordersIn .processing).length 0 := by
  obtain ⟨-, hpoller, hworkers, hqueue⟩ := begin?_spec h
  simp [Tallied, outstanding, Poller.held, stats_of_begin? h, hpoller, hworkers, hqueue]
  omega

/-- Nothing is left to be counted where a reconciliation has returned. -/
theorem outstanding_of_returned {failure : Option Stop} (hs : s.Orderly)
    (hp : s.poller = .returned failure) : s.outstanding = 0 := by
  rw [Orderly, hp] at hs
  rw [outstanding, hp, hs.2, inHand_of_isOver hs.1]
  rfl

/-- A worker that goes on takes an order from the queue, keeps the one that it has, or is
    done with it and counts it. -/
theorem Tallied.setWorker {store : Store} {queue : List Order} {failures : List Failure}
    {stats : Stats} (hs : s.Tallied base n h) (hw : s.workers[i]? = some w)
    (hdispatched : stats.dispatched = s.stats.dispatched)
    (hreleased : stats.released = s.stats.released)
    (hhandled : stats.handled + queue.length + w'.inHand.toList.length =
      s.stats.handled + s.queue.length + w.inHand.toList.length) :
    ({ s with store, queue, failures, stats }.setWorker i w').Tallied base n h := by
  have hlength := length_inHand_set hw w'
  simp only [Tallied, outstanding, System.setWorker] at hs ⊢
  omega

/-- Every move keeps the balance. -/
theorem Tallied.step? (hs : s.Tallied base n h) (horderly : s.Orderly) (hkeeps : s.KeepsQueue)
    (hm : ∀ setup signal, m ≠ .begin setup signal) (hrenew : m ≠ .renew)
    (hsmooth : Smooth (s.logged? m).toList) (hstep : s.step? m = some s') :
    s'.Tallied base n (h + if m.handsBack then 1 else 0) := by
  cases step?_step hstep with
  | begin setup signal => exact absurd rfl (hm setup signal)
  | renew => exact absurd rfl hrenew
  | recoveryFails order rest count e store poller fails =>
    exact absurd fails (not_recoveryFails hsmooth poller)
  | recovered count poller =>
    rw [Orderly, poller] at horderly
    simp [Tallied, outstanding, Poller.held, Move.handsBack, Stats.handled, poller, horderly,
      inHand_replicate_idle] at hs ⊢
    omega
  | sendFails order rest poller closed => simp [hkeeps.of_sending poller] at closed
  | handBack order _ poller | putBack _ order poller =>
    rw [release_of_smooth order hsmooth (by simp [update?, poller])]
    simp [Tallied, outstanding, Poller.held, Move.handsBack, Stats.handled, poller] at hs ⊢
    omega
  | seeRequest poller requested =>
    rcases poller with poller | ⟨order, rest, poller⟩ <;>
      simpa [Tallied, outstanding, Poller.held, Move.handsBack, poller] using hs
  | take i order rest worker queue =>
    refine hs.setWorker worker rfl rfl ?_
    simp [queue, Worker.inHand]
    omega
  | settle i order reply store worker done =>
    refine hs.setWorker worker (by simp) (by simp) ?_
    simp [handled_settled, Worker.inHand]
    omega
  | overflow i order reply store worker overflows =>
    exact absurd overflows (not_overflow hsmooth worker)
  | giveBackFails i order reply f store worker giveBack fails =>
    refine hs.setWorker worker rfl rfl ?_
    simp [handled_failure, Worker.inHand]
    omega
  | settleFails i order reply f store worker final fails => exact hs.setWorker worker rfl rfl rfl
  | revert i order failure f worker =>
    refine hs.setWorker worker rfl rfl ?_
    simp [handled_failure, Worker.inHand]
    omega
  | quit i worker | report i _ worker | giveUp i _ worker => exact hs.setWorker worker rfl rfl rfl
  | collect | client | requestShutdown | abandonShutdown => exact hs
  | recover _ _ _ _ poller | cycle poller | claim _ _ _ poller | claimFails _ _ _ _ poller
  | send _ _ poller | pause poller | wake poller | leave poller | join _ poller
  | takeOut _ _ _ poller queue | finish _ poller =>
    simp [Tallied, outstanding, Poller.held, Move.handsBack, Stats.handled, *] at hs ⊢
    omega

/-- Induction along one reconciliation: the moves grow by one, and the log by what that
    adds to it. -/
theorem course_induct {P : List Move → List Entry → System → Prop} (hs : Custody s)
    (hkeeps : s.KeepsQueue) (hbegin : ∀ setup signal, .begin setup signal ∉ moves)
    (hrenew : .renew ∉ moves) (hrun : s.run? moves = some s') (hstart : P [] [] s)
    (hstep : ∀ {earlier log t m t'}, Custody t → t.KeepsQueue →
      (∀ setup signal, m ≠ .begin setup signal) → m ≠ .renew → P earlier log t →
      t.step? m = some t' → P (earlier ++ [m]) (log ++ (t.logged? m).toList) t') :
    P moves (s.log moves) s' := by
  -- By induction on the moves, with any moves and any log before them.
  suffices ∀ earlier log t, Custody t → t.KeepsQueue → P earlier log t → t.run? moves = some s' →
      P (earlier ++ moves) (log ++ t.log moves) s' from
    this [] [] s hs hkeeps hstart hrun
  clear hrun hstart hs hkeeps
  induction moves with
  | nil =>
    intro earlier log t _ _ ht hrun
    cases hrun
    rwa [System.log, List.append_nil, List.append_nil]
  | cons m moves ih =>
    intro earlier log t hcustody hkeeps ht hrun
    obtain ⟨t', ht', hrun⟩ := run?_cons hrun
    obtain ⟨hm, hmoves⟩ := not_begin_cons hbegin
    rw [List.mem_cons, not_or] at hrenew
    have hlater := ih hmoves hrenew.2 _ _ t' (hcustody.step? ht') (hkeeps.step? ht')
      (hstep hcustody hkeeps hm (Ne.symm hrenew.1) ht ht') hrun
    rwa [List.append_assoc, List.singleton_append, List.append_assoc, ← log_cons ht'] at hlater

/-- What is counted is in balance at any time of a reconciliation. -/
theorem tallied_of_run? (hcustody : Custody s) (hkeeps : s.KeepsQueue)
    (hbegin : ∀ setup signal, .begin setup signal ∉ moves) (hrenew : .renew ∉ moves)
    (hrun : s.run? moves = some s') (hs : s.Tallied base n 0) (hsmooth : Smooth (s.log moves)) :
    s'.Tallied base n (moves.countP Move.handsBack) := by
  refine course_induct (P := fun earlier log t =>
    Smooth log → t.Tallied base n (earlier.countP Move.handsBack)) hcustody hkeeps hbegin hrenew
    hrun (fun _ => hs) (fun hcustody hkeeps hm hrenew ht hstep hsmooth => ?_) hsmooth
  rw [List.countP_append, List.countP_singleton]
  exact (ht hsmooth.left).step? hcustody.orderly hkeeps hm hrenew hsmooth.right hstep

/-! ## The shutdown -/

/-- A shutdown is not taken back. -/
theorem cancelled_of_step? (hm : ∀ setup signal, m ≠ .begin setup signal)
    (hstep : s.step? m = some s') (hs : s.shutdown.cancelled = true) :
    s'.shutdown.cancelled = true := by
  cases step?_step hstep with
  | begin setup signal => exact absurd rfl (hm setup signal)
  | requestShutdown =>
    unfold Shutdown.request
    split_ifs
    · rfl
    · exact hs
  | abandonShutdown => simp [Shutdown.abandon, Shutdown.cancelled]
  | sendFails | handBack | putBack => simpa using hs
  | _ => exact hs

/-- Once the poller sends no more orders, it hands none back. -/
theorem sendingOver_of_step? (hm : ∀ setup signal, m ≠ .begin setup signal)
    (hstep : s.step? m = some s') (hs : s.sendingOver = true) :
    s'.sendingOver = true ∧ m.handsBack = false := by
  unfold sendingOver at hs ⊢
  cases step?_step hstep with
  | begin setup signal => exact absurd rfl (hm setup signal)
  | join | takeOut | putBack | finish => exact ⟨rfl, rfl⟩
  | seeRequest poller => rcases poller with poller | ⟨order, rest, poller⟩ <;> simp [poller] at hs
  | recover _ _ _ _ poller | recoveryFails _ _ _ _ _ poller | recovered _ poller | cycle poller
  | claim _ _ _ poller | claimFails _ _ _ _ poller | send _ _ poller | sendFails _ _ poller
  | handBack _ _ poller | pause poller | collect _ _ poller | wake poller | leave poller =>
    simp [poller] at hs
  | _ => exact ⟨hs, rfl⟩

/-- Having handed an order back, the poller sends no more. -/
theorem sendingOver_of_handsBack (hm : m.handsBack = true) (hstep : s.step? m = some s') :
    s'.sendingOver = true := by
  cases step?_step hstep with
  | handBack => rfl
  | _ => cases hm

/-- The poller hands one order back at most. -/
theorem countP_handsBack (hcustody : Custody s) (hkeeps : s.KeepsQueue)
    (hbegin : ∀ setup signal, .begin setup signal ∉ moves) (hrenew : .renew ∉ moves)
    (hrun : s.run? moves = some s') :
    moves.countP Move.handsBack = if moves.any Move.handsBack then 1 else 0 := by
  have hcount : moves.countP Move.handsBack = 0 ∨
      moves.countP Move.handsBack = 1 ∧ s'.sendingOver = true := by
    refine course_induct (P := fun earlier _ t => earlier.countP Move.handsBack = 0 ∨
      earlier.countP Move.handsBack = 1 ∧ t.sendingOver = true) hcustody hkeeps hbegin hrenew
      hrun (.inl rfl) fun _ _ hm _ ht hstep => ?_
    rw [List.countP_append, List.countP_singleton]
    rcases ht with hnone | ⟨hone, hover⟩
    · rw [hnone, Nat.zero_add]
      split_ifs with hback
      · exact .inr ⟨rfl, sendingOver_of_handsBack hback hstep⟩
      · exact .inl rfl
    · obtain ⟨hover', hnot⟩ := sendingOver_of_step? hm hstep hover
      simp [hone, hnot, hover']
  have hany : moves.any Move.handsBack = true ↔ 0 < moves.countP Move.handsBack := by
    rw [List.any_eq_true, List.countP_pos_iff]
  rcases hcount with hnone | ⟨hone, -⟩
  · rw [hnone] at hany ⊢
    exact (if_neg fun h => absurd (hany.1 h) (Nat.lt_irrefl 0)).symm
  · rw [hone] at hany ⊢
    exact (if_pos (hany.2 Nat.one_pos)).symm

/-! ## Without a shutdown -/

/-- As long as no shutdown is asked for, the poller makes only those orders new again that a
    reconciliation found processing, so that `n` are counted with those before it, and workers
    end only when nothing is left. -/
structure Undisturbed (n : Nat) (s : System) : Prop where
  released : s.stats.released + s.poller.held = n
  started : s.poller.isRecovering = false → s.workers ≠ []
  ended : ∀ w ∈ s.workers, w.isOver = true → s.sendingOver = true ∧ s.queue = []
  emptied : s.poller.keepsQueue = false → s.queue = []

/-- A reconciliation begins undisturbed. -/
theorem undisturbed_of_begin? {setup : Setup} {signal : Shutdown}
    (h : s.begin? setup signal = some s') :
    s'.Undisturbed (s.stats.released + (s.store.ordersIn .processing).length) := by
  obtain ⟨-, hpoller, hworkers, hqueue⟩ := begin?_spec h
  refine ⟨?_, fun hstarted => ?_, fun w hw => ?_, fun _ => hqueue⟩
  · simp [stats_of_begin? h, hpoller, Poller.held]
  · rw [hpoller] at hstarted
    cases hstarted
  · rw [hworkers] at hw
    exact absurd hw List.not_mem_nil

namespace Undisturbed

/-- The poller goes on, and is not to join the workers yet. -/
theorem poll (hs : s.Undisturbed n) (hp : s.sendingOver = false)
    (hrecovering : s.poller.isRecovering = true → s'.poller.isRecovering = true)
    (hreleased : s'.stats.released + s'.poller.held = s.stats.released + s.poller.held)
    (hworkers : s'.workers = s.workers) (hkept : s'.poller.keepsQueue = true) :
    s'.Undisturbed n := by
  refine ⟨hreleased.trans hs.released, fun hnot => ?_, fun w hw hover => ?_, fun hnot => ?_⟩
  · rw [hworkers]
    refine hs.started (Bool.eq_false_iff.2 fun h => ?_)
    simp [hrecovering h] at hnot
  · rw [hworkers] at hw
    have hsent := (hs.ended w hw hover).1
    simp [hp] at hsent
  · simp [hkept] at hnot

/-- A worker goes on, or ends where nothing is left. -/
theorem setWorker {store : Store} {failures : List Failure} {stats : Stats}
    (hs : s.Undisturbed n) (hreleased : stats.released = s.stats.released)
    (hover : w.isOver = true → s.sendingOver = true ∧ s.queue = []) :
    ({ s with store, failures, stats }.setWorker i w).Undisturbed n := by
  refine ⟨hreleased ▸ hs.released, fun hnot h => ?_, fun w' hw' hover' => ?_, hs.emptied⟩
  · exact hs.started hnot (by simpa [System.setWorker] using h)
  · rcases List.mem_or_eq_of_mem_set hw' with hw' | rfl
    · exact hs.ended w' hw' hover'
    · exact hover hover'

/-- A worker takes an order. -/
theorem take {rest : List Order} (hs : s.Undisturbed n) (hq : s.queue = order :: rest) :
    ({ s with queue := rest }.setWorker i (.resolving order)).Undisturbed n := by
  refine ⟨hs.released, fun hnot h => ?_, fun w hw hover => ?_, fun hnot => ?_⟩
  · exact hs.started hnot (by simpa [System.setWorker] using h)
  · rcases List.mem_or_eq_of_mem_set hw with hw | rfl
    · simpa [hq] using (hs.ended w hw hover).2
    · cases hover
  · simpa [hq] using hs.emptied hnot

/-- When all workers have ended, nothing is left in the queue. -/
theorem queue_eq_nil (hs : s.Undisturbed n) (hp : s.poller.isRecovering = false)
    (hover : s.workers.all Worker.isOver) : s.queue = [] := by
  obtain ⟨w, hw⟩ := List.exists_mem_of_ne_nil _ (hs.started hp)
  exact (hs.ended w hw (List.all_eq_true.1 hover w hw)).2

/-- The poller goes on, with nothing in the queue and no order to put into it. -/
theorem finish (hs : s.Undisturbed n) (hp : s.poller.isRecovering = false)
    (hworkers : s'.workers = s.workers) (hqueue : s'.queue = []) (hsent : s'.sendingOver = true)
    (hreleased : s'.stats.released + s'.poller.held = s.stats.released + s.poller.held) :
    s'.Undisturbed n :=
  ⟨hreleased.trans hs.released, fun _ => hworkers ▸ hs.started hp, fun _ _ _ => ⟨hsent, hqueue⟩,
    fun _ => hqueue⟩

/-- Every move before a shutdown keeps the workers at work. -/
theorem step? (hs : s.Undisturbed n) (hkeeps : s.KeepsQueue)
    (hm : ∀ setup signal, m ≠ .begin setup signal) (hrenew : m ≠ .renew)
    (hsmooth : Smooth (s.logged? m).toList) (hopen : s.shutdown.cancelled = false)
    (hstep : s.step? m = some s') : s'.Undisturbed n := by
  cases step?_step hstep with
  | begin setup signal => exact absurd rfl (hm setup signal)
  | renew => exact absurd rfl hrenew
  | recoveryFails order rest count e store poller fails =>
    exact absurd fails (not_recoveryFails hsmooth poller)
  | recovered count poller =>
    have hreleased := hs.released
    rw [poller] at hreleased
    refine ⟨hreleased, fun _ h => ?_, fun w hw hover => ?_, by rintro ⟨⟩⟩
    · have hcount : 1 ≤ s.setup.workerCount := Nat.le_max_right _ _
      have hnone : s.setup.workerCount = 0 := (List.replicate_eq_nil_iff _).1 h
      omega
    · rw [List.eq_of_mem_replicate hw] at hover
      cases hover
  | seeRequest poller requested => simp [Shutdown.cancelled, requested] at hopen
  | sendFails order rest poller closed => simp [hkeeps.of_sending poller] at closed
  | handBack _ _ _ cancelled | leave _ cancelled => simp [hopen] at cancelled
  | join failure poller allOver =>
    refine hs.finish (by rw [poller]; rfl) rfl ?_ rfl (by simp [poller, Poller.held])
    exact hs.queue_eq_nil (by rw [poller]; rfl) allOver
  | takeOut failure order rest poller queue =>
    have hempty := hs.emptied (by rw [poller]; rfl)
    simp [queue] at hempty
  | putBack failure order poller =>
    rw [release_of_smooth order hsmooth (by simp [update?, poller])]
    exact hs.finish (by rw [poller]; rfl) rfl (hs.emptied (by rw [poller]; rfl)) rfl
      (by simp [poller, Poller.held])
  | finish failure poller queue =>
    exact hs.finish (by rw [poller]; rfl) rfl queue rfl (by simp [poller, Poller.held])
  | take i order rest worker queue => exact hs.take queue
  | quit i worker nothingLeft =>
    refine hs.setWorker rfl fun _ => ?_
    simpa [hopen] using nothingLeft
  | settle i order reply store worker done => exact hs.setWorker (by simp) (by rintro ⟨⟩)
  | overflow i order reply store worker overflows =>
    exact absurd overflows (not_overflow hsmooth worker)
  | giveBackFails | settleFails | revert | report | giveUp => exact hs.setWorker rfl (by rintro ⟨⟩)
  | collect | client | requestShutdown | abandonShutdown => exact ⟨hs.1, hs.2, hs.3, hs.4⟩
  | recover order rest count store poller done =>
    refine hs.poll (by simp [sendingOver, poller]) (fun _ => rfl) ?_ rfl rfl
    simp only [poller, Poller.held, List.length_cons]
    omega
  | cycle poller | claim _ _ _ poller | claimFails _ _ _ _ poller | send _ _ poller
  | pause poller | wake poller =>
    exact hs.poll (by simp [sendingOver, poller]) (by simp [poller, Poller.isRecovering])
      (by simp [poller, Poller.held]) rfl rfl

end Undisturbed

/-- Where no shutdown was asked for, none of the orders was handed back either. -/
theorem undisturbed_of_run? (hcustody : Custody s) (hkeeps : s.KeepsQueue)
    (hbegin : ∀ setup signal, .begin setup signal ∉ moves) (hrenew : .renew ∉ moves)
    (hrun : s.run? moves = some s') (hs : s.Undisturbed n) (hsmooth : Smooth (s.log moves))
    (hopen : s'.shutdown.cancelled = false) :
    s'.Undisturbed n ∧ moves.countP Move.handsBack = 0 := by
  refine course_induct (P := fun earlier log t => Smooth log → t.shutdown.cancelled = false →
    t.Undisturbed n ∧ earlier.countP Move.handsBack = 0) hcustody hkeeps hbegin hrenew hrun
    (fun _ _ => ⟨hs, rfl⟩)
    (fun {earlier log t m t'} _ hkeeps hm hrenew ht hstep hsmooth hopen => ?_) hsmooth hopen
  have hopen' : t.shutdown.cancelled = false := by
    by_contra hcancelled
    rw [Bool.not_eq_false] at hcancelled
    simp [cancelled_of_step? hm hstep hcancelled] at hopen
  obtain ⟨hundisturbed, hnone⟩ := ht hsmooth.left hopen'
  refine ⟨hundisturbed.step? hkeeps hm hrenew hsmooth.right hopen' hstep, ?_⟩
  rw [List.countP_append, List.countP_singleton, hnone]
  cases step?_step hstep with
  | handBack _ _ _ cancelled => simp [hopen'] at cancelled
  | _ => rfl

/-! ## The recovery -/

/-- The recovery goes on to the next order, or is over, or somebody else makes a move. -/
theorem recovering_of_step? {rest : List Order} {count : Nat}
    (hp : s.poller = .recovering rest count) (hm : ∀ setup signal, m ≠ .begin setup signal)
    (hsmooth : Smooth (s.logged? m).toList) (hstep : s.step? m = some s') :
    s'.poller = .recovering rest count ∨
      m = .poll ∧ (rest = [] ∨
        ∃ order rest', rest = order :: rest' ∧ s'.poller = .recovering rest' (count + 1)) := by
  cases step?_step hstep with
  | begin setup signal => exact absurd rfl (hm setup signal)
  | recover order rest' count' store poller done =>
    cases hp.symm.trans poller
    exact .inr ⟨rfl, .inr ⟨order, rest', rfl, rfl⟩⟩
  | recoveryFails order rest' count' e store poller fails =>
    exact absurd fails (not_recoveryFails hsmooth poller)
  | recovered count' poller =>
    cases hp.symm.trans poller
    exact .inr ⟨rfl, .inl rfl⟩
  | seeRequest poller => rcases poller with poller | ⟨order, rest, poller⟩ <;> simp [poller] at hp
  | cycle poller | claim _ _ _ poller | claimFails _ _ _ _ poller | send _ _ poller
  | sendFails _ _ poller | handBack _ _ poller | pause poller | collect _ _ poller | wake poller
  | leave poller | join _ poller | takeOut _ _ _ poller | putBack _ _ poller | finish _ poller =>
    simp [poller] at hp
  | _ => exact .inl hp

/-- The recovery makes every order new again that it has before it. -/
theorem recovers_of_run? {rest : List Order} {count : Nat} {failure : Option Stop}
    (hp : s.poller = .recovering rest count) (hbegin : ∀ setup signal, .begin setup signal ∉ moves)
    (hsmooth : Smooth (s.log moves)) (hrun : s.run? moves = some s')
    (hreturned : s'.poller = .returned failure) :
    ∃ earlier later u, moves = earlier ++ .poll :: later ∧ s.run? earlier = some u ∧
      u.poller = .recovering [] (count + rest.length) := by
  induction moves generalizing s rest count with
  | nil =>
    cases hrun
    cases hp.symm.trans hreturned
  | cons m moves ih =>
    obtain ⟨t, ht, hrun⟩ := run?_cons hrun
    rw [log_cons ht] at hsmooth
    obtain ⟨hm, hmoves⟩ := not_begin_cons hbegin
    have hlater {rest' : List Order} {count' : Nat} (hp' : t.poller = .recovering rest' count')
        (hcount : count' + rest'.length = count + rest.length) :
        ∃ earlier later u, m :: moves = earlier ++ .poll :: later ∧ s.run? earlier = some u ∧
          u.poller = .recovering [] (count + rest.length) := by
      obtain ⟨earlier, later, u, rfl, hu, hup⟩ := ih hp' hmoves hsmooth.right hrun
      exact ⟨m :: earlier, later, u, rfl, (run?_of_step? ht).trans hu, hcount ▸ hup⟩
    rcases recovering_of_step? hp hm hsmooth.left ht with
      hp' | ⟨rfl, rfl | ⟨order, rest', rfl, hp'⟩⟩
    · exact hlater hp' rfl
    · exact ⟨[], moves, s, rfl, rfl, hp⟩
    · exact hlater hp' (by rw [List.length_cons]; omega)

end System
end Loyalty.Reconciliation
