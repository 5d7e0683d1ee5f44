import Loyalty.Account.Access
import Loyalty.Ledger.Spending
import Loyalty.Ledger.Submission
import Loyalty.Reconciliation.Stats
import Loyalty.Shutdown

/-!
# Reconciliation

A poller and some workers bring the orders of the store to the authority. The
poller first makes every order new again that was left in hand. Then, cycle
after cycle, it takes the new orders as they stand, marks one after another as
processing, and puts them into a queue of limited room; between two cycles it
pauses. Each worker takes an order from the queue, asks the authority about it
and settles it. A failure of a worker is reported on a second queue, of limited
room too, which the poller empties; a worker waits for room there only so
long. The poller stops at a shutdown, or at a failure of the store when it
recovers orders or marks one. The workers then end, and what is left in the
queue is made new again.

Users go on registering, submitting orders and spending points meanwhile, and
one reconciliation may follow another on the same store, with a setup of its
own. It goes on with the counts of the one before, unless it is of another
reconciler, which begins to count anew.

Everything that happens between two looks of anybody else is one move
(`Move`): a single operation of the store, or a single look at a queue or at
the shutdown signal. `System.step?` makes a move where it can be made. A worker
that gets its answer writes it down by one move and, where that fails, gives
the order back by another, so that anything may come between the two.
-/

namespace Loyalty.Reconciliation

/-- How a reconciliation is set up. -/
structure Setup where
  pollInterval : Span
  workers : Nat
  queueCapacity : Nat
  errorCapacity : Nat
  /-- how long a worker waits to report a failure -/
  reportTimeout : Span
  deriving DecidableEq, Repr

namespace Setup

/-- The setup where none is given. -/
def standard : Setup := ⟨.seconds 1, 16, 1024, 1024, .seconds 1⟩

/-- There is at least one worker. -/
def workerCount (setup : Setup) : Nat := max setup.workers 1

/-- The queue has room for at least one order. -/
def queueRoom (setup : Setup) : Nat := max setup.queueCapacity 1

/-- The queue of failures has room for at least one. -/
def errorRoom (setup : Setup) : Nat := max setup.errorCapacity 1

end Setup

/-- What the poller is about. Once it has stopped, it knows the failure that
    stopped it, if that was no shutdown. -/
inductive Poller
  /-- no reconciliation has begun -/
  | idle
  /-- makes orders new again that were left in hand, `count` of them so far -/
  | recovering (rest : List Order) (count : Nat)
  /-- is about to begin a cycle -/
  | cycling
  /-- has these orders of the cycle before it -/
  | dispatching (rest : List Order)
  /-- has marked an order and is about to put it into the queue -/
  | sending (order : Order) (rest : List Order)
  /-- pauses between two cycles -/
  | pausing
  /-- has stopped and waits for the workers to end -/
  | joining (failure : Option Stop)
  /-- empties the queue, with an order in hand or not -/
  | draining (failure : Option Stop) (inHand : Option Order)
  /-- is done -/
  | returned (failure : Option Stop)
  deriving DecidableEq

/-- What a worker is about. -/
inductive Worker
  /-- waits for an order -/
  | idle
  /-- has asked the authority about an order -/
  | resolving (order : Order)
  /-- could not write down what became of an order, and is about to give it back -/
  | reverting (order : Order) (failure : Failure)
  /-- is about to report a failure -/
  | reporting (failure : Failure)
  /-- has ended -/
  | ended
  /-- was broken off by an overflow -/
  | brokenOff
  deriving DecidableEq

/-- Whether a worker does nothing any more. -/
def Worker.isOver : Worker → Bool
  | ended | brokenOff => true
  | _ => false

/-- The store, and the reconciliation on it. -/
structure System where
  /-- how the reconciliation is set up -/
  setup : Setup
  store : Store
  poller : Poller
  workers : List Worker
  queue : List Order
  /-- whether the queue takes no more orders -/
  queueClosed : Bool
  /-- the failures that are reported and not yet taken note of -/
  failures : List Failure
  shutdown : Shutdown
  stats : Stats

/-- What a worker can do. -/
inductive WorkerMove
  /-- takes an order from the queue -/
  | take
  /-- ends, as there is nothing more to do -/
  | quit
  /-- writes down an answer of the authority -/
  | answer (reply : Reply)
  /-- gives an order back -/
  | revert
  /-- reports a failure -/
  | report
  /-- has waited too long to report a failure -/
  | giveUp

/-- What happens to the store from outside. -/
inductive ClientMove
  | register (rounds : Nat) (salt : List UInt8) (login password : String)
  | submit (number : String) (user : Int) (now : Timestamp)
  | spend (number : String) (amount : Amount) (user : Int) (now : Timestamp)
  | failCredits (count : Nat)
  | failMarks (status : OrderStatus) (count : Nat)
  deriving DecidableEq

/-- What happens next. -/
inductive Move
  /-- a reconciliation begins, with this setup and this shutdown signal -/
  | begin (setup : Setup) (signal : Shutdown)
  /-- the next reconciliation is to be of another reconciler, which has counted
      nothing yet -/
  | renew
  /-- the poller goes on -/
  | poll
  /-- the poller, about to put an order into the queue, sees the shutdown -/
  | handBack
  /-- the poller, pausing, sees the shutdown -/
  | leave
  /-- the poller, pausing, takes note of a failure -/
  | collect
  /-- the pause of the poller is over -/
  | wake
  | worker (i : Nat) (move : WorkerMove)
  | client (move : ClientMove)
  | requestShutdown
  | abandonShutdown

/-- The store after a move from outside. -/
def ClientMove.apply (s : Store) : ClientMove → Store
  | register rounds salt login password => (s.register rounds salt login password).2
  | submit number user now => (s.submit number user now).2
  | spend number amount user now => (s.spend number amount user now).2
  | failCredits count => s.failCredits count
  | failMarks status count => s.failMarks status count

namespace System

/-- A store without a reconciliation. -/
def start (store : Store) : System where
  setup := .standard
  store
  poller := .idle
  workers := []
  queue := []
  queueClosed := false
  failures := []
  shutdown := .start
  stats := .zero

/-- Whether the workers get no more orders but those in the queue. -/
def sendingOver (s : System) : Bool :=
  match s.poller with
  | .joining _ | .draining .. | .returned _ => true
  | _ => false

/-- Makes an order of the poller new again, and counts it if that is done. -/
def release (s : System) (order : Order) : System :=
  match s.store.release order with
  | (.ok (), store) =>
    { s with store, stats := { s.stats with released := s.stats.released + 1 } }
  | (.error _, store) => { s with store }

/-- The poller goes on. -/
def poll? (s : System) : Option System :=
  match s.poller with
  | .recovering [] count =>
    some { s with
      poller := .cycling
      workers := List.replicate s.setup.workerCount .idle
      stats := { s.stats with released := s.stats.released + count } }
  | .recovering (order :: rest) count =>
    match s.store.release order with
    | (.ok (), store) => some { s with store, poller := .recovering rest (count + 1) }
    | (.error e, store) => some { s with store, poller := .returned (some e) }
  | .cycling =>
    if s.shutdown.requested then some { s with poller := .joining none }
    else
      some { s with
        poller := .dispatching (s.store.ordersIn .new)
        failures := []
        stats := { s.stats with cycles := s.stats.cycles + 1 } }
  | .dispatching [] => some { s with poller := .pausing }
  | .dispatching (order :: rest) =>
    if s.shutdown.requested then some { s with poller := .joining none }
    else
      match s.store.claim order with
      | (.ok (), store) =>
        some { s with store, poller := .sending { order with status := .processing } rest }
      | (.error e, store) => some { s with store, poller := .joining (some e) }
  | .sending order rest =>
    if s.queueClosed then
      some { s.release order with poller := .joining (some (.failure (.internal .queueClosed))) }
    else if s.queue.length < s.setup.queueRoom then
      some { s with
        poller := .dispatching rest
        queue := s.queue ++ [order]
        stats := { s.stats with dispatched := s.stats.dispatched + 1 } }
    else none
  | .joining failure =>
    if s.workers.all Worker.isOver then
      some { s with poller := .draining failure none, queueClosed := true }
    else none
  | .draining failure (some order) =>
    some { s.release order with poller := .draining failure none }
  | .draining failure none =>
    match s.queue with
    | order :: rest => some { s with poller := .draining failure (some order), queue := rest }
    | [] => some { s with poller := .returned failure, failures := [] }
  | .idle | .pausing | .returned _ => none

/-- A reconciliation begins, if none is under way. -/
def begin? (s : System) (setup : Setup) (signal : Shutdown) : Option System :=
  match s.poller with
  | .idle | .returned _ =>
    some
      { setup
        store := s.store
        poller := .recovering (s.store.ordersIn .processing) 0
        workers := []
        queue := []
        queueClosed := false
        failures := []
        shutdown := signal
        stats := s.stats }
  | _ => none

/-- Another reconciler takes over, if no reconciliation is under way. -/
def renew? (s : System) : Option System :=
  match s.poller with
  | .idle | .returned _ => some { s with stats := .zero }
  | _ => none

/-- The system with one worker in another phase. -/
def setWorker (s : System) (i : Nat) (w : Worker) : System :=
  { s with workers := s.workers.set i w }

/-- A worker writes down an answer of the authority. -/
def answer (s : System) (i : Nat) (order : Order) (reply : Reply) : System :=
  let settlement := Settlement.ofReply reply
  match s.store.write order settlement with
  | (.ok (), store) => { s with store, stats := s.stats.settled settlement }.setWorker i .idle
  | (.error .overflow, store) => { s with store }.setWorker i .brokenOff
  | (.error (.failure f), store) =>
    if settlement = .giveBack then
      { s with store, stats := s.stats.failure }.setWorker i (.reporting f)
    else { s with store }.setWorker i (.reverting order f)

/-- A worker gives an order back. -/
def revert (s : System) (i : Nat) (order : Order) (failure : Failure) : System :=
  match s.store.revert order failure with
  | (.error (.failure f), store) =>
    { s with store, stats := s.stats.failure }.setWorker i (.reporting f)
  | (_, store) => { s with store }.setWorker i .brokenOff

/-- A worker makes a move, if it can. -/
def work? (s : System) (i : Nat) (move : WorkerMove) : Option System :=
  match move, s.workers[i]? with
  | .take, some .idle =>
    match s.queue with
    | order :: rest => some ({ s with queue := rest }.setWorker i (.resolving order))
    | [] => none
  | .quit, some .idle =>
    if s.shutdown.cancelled || (s.sendingOver && s.queue.isEmpty) then some (s.setWorker i .ended)
    else none
  | .answer reply, some (.resolving order) => some (s.answer i order reply)
  | .revert, some (.reverting order failure) => some (s.revert i order failure)
  | .report, some (.reporting failure) =>
    if s.failures.length < s.setup.errorRoom then
      some ({ s with failures := s.failures ++ [failure] }.setWorker i .idle)
    else none
  | .giveUp, some (.reporting _) => some (s.setWorker i .idle)
  | _, _ => none

/-- The system after a move, if it can be made. -/
def step? (s : System) : Move → Option System
  | .begin setup signal => s.begin? setup signal
  | .renew => s.renew?
  | .poll => s.poll?
  | .handBack =>
    match s.poller with
    | .sending order _ =>
      if s.shutdown.cancelled then some { s.release order with poller := .joining none }
      else none
    | _ => none
  | .leave =>
    if s.poller = .pausing ∧ s.shutdown.cancelled then some { s with poller := .joining none }
    else none
  | .collect =>
    if s.poller = .pausing then
      match s.failures with
      | _ :: rest => some { s with failures := rest }
      | [] => none
    else none
  | .wake => if s.poller = .pausing then some { s with poller := .cycling } else none
  | .worker i move => s.work? i move
  | .client move => some { s with store := move.apply s.store }
  | .requestShutdown => some { s with shutdown := s.shutdown.request }
  | .abandonShutdown => some { s with shutdown := s.shutdown.abandon }

/-- The system after some moves, if they can be made one after another. -/
def run? (s : System) : List Move → Option System
  | [] => some s
  | m :: ms => (s.step? m).bind fun s => s.run? ms

end System
end Loyalty.Reconciliation
