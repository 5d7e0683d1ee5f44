import Loyalty.Proofs.Ledger.Services
import Loyalty.Reconciliation.System

/-!
# What a move needs and makes

`System.Step` says of each move where it can be made, with the answers of the store among
what it needs, and what the system is afterwards. Whatever is proved of a reconciliation
is proved by its cases (`System.step?_step`): what becomes of the orders, of the phases of
the poller and of the workers, and of the counts.
-/

namespace Loyalty

namespace Reconciliation.System

variable {s s' : System} {m : Move} {i : Nat} {w : Worker} {order : Order}

@[simp] theorem release_poller (s : System) (order : Order) :
    (s.release order).poller = s.poller := by
  rw [release]; split <;> rfl

@[simp] theorem release_queue (s : System) (order : Order) :
    (s.release order).queue = s.queue := by
  rw [release]; split <;> rfl

@[simp] theorem release_queueClosed (s : System) (order : Order) :
    (s.release order).queueClosed = s.queueClosed := by
  rw [release]; split <;> rfl

@[simp] theorem release_workers (s : System) (order : Order) :
    (s.release order).workers = s.workers := by
  rw [release]; split <;> rfl

@[simp] theorem release_setup (s : System) (order : Order) :
    (s.release order).setup = s.setup := by
  rw [release]; split <;> rfl

@[simp] theorem release_shutdown (s : System) (order : Order) :
    (s.release order).shutdown = s.shutdown := by
  rw [release]; split <;> rfl

theorem release_store (s : System) (order : Order) :
    (s.release order).store = (s.store.release order).2 := by
  rw [release]
  split <;> rename_i h <;> rw [h]

@[simp] theorem setWorker_poller : (s.setWorker i w).poller = s.poller := rfl

@[simp] theorem setWorker_queue : (s.setWorker i w).queue = s.queue := rfl

@[simp] theorem setWorker_queueClosed : (s.setWorker i w).queueClosed = s.queueClosed := rfl

@[simp] theorem setWorker_shutdown : (s.setWorker i w).shutdown = s.shutdown := rfl

@[simp] theorem setWorker_stats : (s.setWorker i w).stats = s.stats := rfl

/-- What a move of `s` leads to, and what it needs. -/
inductive Step (s : System) : Move → System → Prop
  | begin (setup : Setup) (signal : Shutdown) (s' : System)
      (begins : s.begin? setup signal = some s') : Step s (.begin setup signal) s'
  | renew (resting : s.poller = .idle ∨ ∃ failure, s.poller = .returned failure) :
      Step s .renew { s with stats := .zero }
  -- The poller recovers orders,
  | recover (order : Order) (rest : List Order) (count : Nat) (store : Store)
      (poller : s.poller = .recovering (order :: rest) count)
      (done : s.store.release order = (.ok (), store)) :
      Step s .poll { s with store, poller := .recovering rest (count + 1) }
  | recoveryFails (order : Order) (rest : List Order) (count : Nat) (e : Stop) (store : Store)
      (poller : s.poller = .recovering (order :: rest) count)
      (fails : s.store.release order = (.error e, store)) :
      Step s .poll { s with store, poller := .returned (some e) }
  | recovered (count : Nat) (poller : s.poller = .recovering [] count) :
      Step s .poll { s with
        poller := .cycling
        workers := List.replicate s.setup.workerCount .idle
        stats := { s.stats with released := s.stats.released + count } }
  -- goes through its cycles,
  | cycle (poller : s.poller = .cycling) (unasked : s.shutdown.requested = false) :
      Step s .poll { s with
        poller := .dispatching (s.store.ordersIn .new)
        failures := []
        stats := { s.stats with cycles := s.stats.cycles + 1 } }
  | seeRequest
      (poller : s.poller = .cycling ∨ ∃ order rest, s.poller = .dispatching (order :: rest))
      (requested : s.shutdown.requested = true) : Step s .poll { s with poller := .joining none }
  | claim (order : Order) (rest : List Order) (store : Store)
      (poller : s.poller = .dispatching (order :: rest)) (unasked : s.shutdown.requested = false)
      (done : s.store.claim order = (.ok (), store)) :
      Step s .poll { s with store, poller := .sending { order with status := .processing } rest }
  | claimFails (order : Order) (rest : List Order) (e : Stop) (store : Store)
      (poller : s.poller = .dispatching (order :: rest)) (unasked : s.shutdown.requested = false)
      (fails : s.store.claim order = (.error e, store)) :
      Step s .poll { s with store, poller := .joining (some e) }
  | send (order : Order) (rest : List Order) (poller : s.poller = .sending order rest)
      (openQueue : s.queueClosed = false) (room : s.queue.length < s.setup.queueRoom) :
      Step s .poll { s with
        poller := .dispatching rest
        queue := s.queue ++ [order]
        stats := { s.stats with dispatched := s.stats.dispatched + 1 } }
  | sendFails (order : Order) (rest : List Order) (poller : s.poller = .sending order rest)
      (closed : s.queueClosed = true) :
      Step s .poll { s.release order with
        poller := .joining (some (.failure (.internal .queueClosed))) }
  | handBack (order : Order) (rest : List Order) (poller : s.poller = .sending order rest)
      (cancelled : s.shutdown.cancelled = true) :
      Step s .handBack { s.release order with poller := .joining none }
  | pause (poller : s.poller = .dispatching []) : Step s .poll { s with poller := .pausing }
  | collect (failure : Failure) (rest : List Failure) (poller : s.poller = .pausing)
      (failures : s.failures = failure :: rest) : Step s .collect { s with failures := rest }
  | wake (poller : s.poller = .pausing) : Step s .wake { s with poller := .cycling }
  | leave (poller : s.poller = .pausing) (cancelled : s.shutdown.cancelled = true) :
      Step s .leave { s with poller := .joining none }
  -- and comes to its end.
  | join (failure : Option Stop) (poller : s.poller = .joining failure)
      (allOver : s.workers.all Worker.isOver) :
      Step s .poll { s with poller := .draining failure none, queueClosed := true }
  | takeOut (failure : Option Stop) (order : Order) (rest : List Order)
      (poller : s.poller = .draining failure none) (queue : s.queue = order :: rest) :
      Step s .poll { s with poller := .draining failure (some order), queue := rest }
  | putBack (failure : Option Stop) (order : Order)
      (poller : s.poller = .draining failure (some order)) :
      Step s .poll { s.release order with poller := .draining failure none }
  | finish (failure : Option Stop) (poller : s.poller = .draining failure none)
      (queue : s.queue = []) :
      Step s .poll { s with poller := .returned failure, failures := [] }
  -- A worker takes an order and settles it, or ends.
  | take (i : Nat) (order : Order) (rest : List Order) (worker : s.workers[i]? = some .idle)
      (queue : s.queue = order :: rest) :
      Step s (.worker i .take) ({ s with queue := rest }.setWorker i (.resolving order))
  | quit (i : Nat) (worker : s.workers[i]? = some .idle)
      (nothingLeft : s.shutdown.cancelled = true ∨ s.sendingOver = true ∧ s.queue = []) :
      Step s (.worker i .quit) (s.setWorker i .ended)
  | settle (i : Nat) (order : Order) (reply : Reply) (store : Store)
      (worker : s.workers[i]? = some (.resolving order))
      (done : s.store.write order (.ofReply reply) = (.ok (), store)) :
      Step s (.worker i (.answer reply))
        ({ s with store, stats := s.stats.settled (.ofReply reply) }.setWorker i .idle)
  | overflow (i : Nat) (order : Order) (reply : Reply) (store : Store)
      (worker : s.workers[i]? = some (.resolving order))
      (overflows : s.store.write order (.ofReply reply) = (.error .overflow, store)) :
      Step s (.worker i (.answer reply)) ({ s with store }.setWorker i .brokenOff)
  | giveBackFails (i : Nat) (order : Order) (reply : Reply) (f : Failure) (store : Store)
      (worker : s.workers[i]? = some (.resolving order))
      (giveBack : Settlement.ofReply reply = .giveBack)
      (fails : s.store.write order (.ofReply reply) = (fails f, store)) :
      Step s (.worker i (.answer reply))
        ({ s with store, stats := s.stats.failure }.setWorker i (.reporting f))
  | settleFails (i : Nat) (order : Order) (reply : Reply) (f : Failure) (store : Store)
      (worker : s.workers[i]? = some (.resolving order))
      (final : Settlement.ofReply reply ≠ .giveBack)
      (fails : s.store.write order (.ofReply reply) = (fails f, store)) :
      Step s (.worker i (.answer reply)) ({ s with store }.setWorker i (.reverting order f))
  | revert (i : Nat) (order : Order) (failure f : Failure)
      (worker : s.workers[i]? = some (.reverting order failure)) :
      Step s (.worker i .revert)
        ({ s with store := (s.store.release order).2, stats := s.stats.failure }.setWorker i
          (.reporting f))
  | report (i : Nat) (failure : Failure) (worker : s.workers[i]? = some (.reporting failure))
      (room : s.failures.length < s.setup.errorRoom) :
      Step s (.worker i .report) ({ s with failures := s.failures ++ [failure] }.setWorker i .idle)
  | giveUp (i : Nat) (failure : Failure) (worker : s.workers[i]? = some (.reporting failure)) :
      Step s (.worker i .giveUp) (s.setWorker i .idle)
  -- The store and the signal are changed from outside.
  | client (move : ClientMove) : Step s (.client move) { s with store := move.apply s.store }
  | requestShutdown : Step s .requestShutdown { s with shutdown := s.shutdown.request }
  | abandonShutdown : Step s .abandonShutdown { s with shutdown := s.shutdown.abandon }

theorem poll?_step (h : s.poll? = some s') : s.Step .poll s' := by
  unfold poll? at h
  split at h
  next count hp =>
    cases h
    exact .recovered count hp
  next order rest count hp =>
    split at h <;> cases h
    next store hr => exact .recover order rest count store hp hr
    next e store hr => exact .recoveryFails order rest count e store hp hr
  next hp =>
    split_ifs at h with hrequested <;> cases h
    · exact .seeRequest (.inl hp) hrequested
    · exact .cycle hp (Bool.not_eq_true _ ▸ hrequested)
  next hp =>
    cases h
    exact .pause hp
  next order rest hp =>
    split_ifs at h with hrequested
    · cases h
      exact .seeRequest (.inr ⟨order, rest, hp⟩) hrequested
    · have hopen : s.shutdown.requested = false := Bool.not_eq_true _ ▸ hrequested
      split at h <;> cases h
      next store hc => exact .claim order rest store hp hopen hc
      next e store hc => exact .claimFails order rest e store hp hopen hc
  next order rest hp =>
    split_ifs at h with hclosed hroom <;> cases h
    · exact .sendFails order rest hp hclosed
    · exact .send order rest hp (Bool.not_eq_true _ ▸ hclosed) hroom
  next failure hp =>
    split_ifs at h with hover
    cases h
    exact .join failure hp hover
  next failure order hp =>
    cases h
    exact .putBack failure order hp
  next failure hp =>
    split at h <;> cases h
    next order rest hq => exact .takeOut failure order rest hp hq
    next hq => exact .finish failure hp hq
  all_goals cases h

theorem answer_step {reply : Reply} (hw : s.workers[i]? = some (.resolving order)) :
    s.Step (.worker i (.answer reply)) (s.answer i order reply) := by
  rw [answer]
  split
  next store hr => exact .settle i order reply store hw hr
  next store hr => exact .overflow i order reply store hw hr
  next f store hr =>
    split_ifs with hgive
    · exact .giveBackFails i order reply f store hw hgive hr
    · exact .settleFails i order reply f store hw hgive hr

theorem work?_step {move : WorkerMove} (h : s.work? i move = some s') :
    s.Step (.worker i move) s' := by
  unfold work? at h
  split at h
  next hw =>
    split at h <;> cases h
    next order rest hq => exact .take i order rest hw hq
  next hw =>
    split_ifs at h with hover
    cases h
    refine .quit i hw ?_
    simpa using hover
  next order hw =>
    cases h
    exact answer_step hw
  next order failure hw =>
    cases h
    obtain ⟨f, hf⟩ := s.store.revert_spec order failure
    rw [System.revert, hf]
    exact .revert i order failure f hw
  next failure hw =>
    split_ifs at h with hroom
    cases h
    exact .report i failure hw hroom
  next failure hw =>
    cases h
    exact .giveUp i failure hw
  · cases h

theorem renew?_step (h : s.renew? = some s') : s.Step .renew s' := by
  unfold renew? at h
  split at h <;> cases h
  next hp => exact .renew (.inl hp)
  next failure hp => exact .renew (.inr ⟨failure, hp⟩)

/-- Every move that can be made is one of these steps. -/
theorem step?_step (h : s.step? m = some s') : s.Step m s' := by
  cases m with
  | begin setup signal => exact .begin setup signal s' h
  | renew => exact renew?_step h
  | poll => exact poll?_step h
  | worker i move => exact work?_step h
  | client move => cases h; exact .client move
  | requestShutdown => cases h; exact .requestShutdown
  | abandonShutdown => cases h; exact .abandonShutdown
  | handBack =>
    simp only [step?] at h
    split at h
    next order rest hp =>
      split_ifs at h with hcancelled
      cases h
      exact .handBack order rest hp hcancelled
    · cases h
  | leave =>
    simp only [step?] at h
    split_ifs at h with hp
    cases h
    exact .leave hp.1 hp.2
  | collect =>
    simp only [step?] at h
    split_ifs at h with hp
    split at h <;> cases h
    next failure rest hf => exact .collect failure rest hp hf
  | wake =>
    simp only [step?] at h
    split_ifs at h with hp
    cases h
    exact .wake hp

/-- A reconciliation begins on the store as it is, with every order in hand that
    is processing. -/
theorem begin?_spec {setup : Setup} {signal : Shutdown} (h : s.begin? setup signal = some s') :
    s'.store = s.store ∧ s'.poller = .recovering (s.store.ordersIn .processing) 0 ∧
      s'.workers = [] ∧ s'.queue = [] := by
  unfold begin? at h
  split at h <;> cases h <;> exact ⟨rfl, rfl, rfl, rfl⟩

/-- It goes on with the counts that there are. -/
theorem stats_of_begin? {setup : Setup} {signal : Shutdown}
    (h : s.begin? setup signal = some s') : s'.stats = s.stats := by
  unfold begin? at h
  split at h <;> cases h <;> rfl

/-- What is to begin nothing, begins nothing at its first move, nor later. -/
theorem not_begin_cons {moves : List Move} (h : ∀ setup signal, .begin setup signal ∉ m :: moves) :
    (∀ setup signal, m ≠ .begin setup signal) ∧ ∀ setup signal, .begin setup signal ∉ moves :=
  ⟨fun setup signal hm => h setup signal (hm ▸ List.mem_cons_self),
    fun setup signal hmem => h setup signal (List.mem_cons_of_mem m hmem)⟩

end Reconciliation.System
end Loyalty
