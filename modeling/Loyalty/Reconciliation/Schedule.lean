import Loyalty.Reconciliation.System

/-!
# A reconciliation on a clock

Here a reconciliation runs against an authority that follows a script: each
number is looked up for a given time, and its answers come in turn, the last of
them again and again; a number that is not in the script is not registered.
Things happen from outside at given times (`Event`).

Time is counted in milliseconds and only passes when nothing can happen: it
then goes to the next time at which something can. Every change of the system
is a move of `System.step?`; the schedule only chooses which of the moves is
next.
-/

namespace Loyalty.Reconciliation

/-- How the authority answers about one number. -/
structure Script where
  number : String
  latency : Nat
  replies : List Reply

/-- What is done from outside, or looked at. -/
inductive Action
  | requestShutdown
  | abandonShutdown
  | failCredits (count : Nat)
  | failMarks (status : OrderStatus) (count : Nat)
  | submit (number : String) (user : Int)
  | look

/-- Something done from outside at some time. -/
structure Event where
  time : Nat
  action : Action

/-- What an action brings. -/
inductive Observation
  | done
  | submitted (outcome : Outcome Submission)
  | seen (stats : Stats) (store : Store) (finished : Bool)

/-- A system on a clock. -/
structure Run where
  scripts : List Script
  /-- the time at which users submit orders, for the store -/
  today : Timestamp
  system : System
  now : Nat
  /-- when the pause of the poller ends -/
  pauseEnds : Nat
  /-- when the lookup or the wait of each worker ends -/
  workEnds : List Nat
  /-- how many answers each number has had -/
  answered : List (String × Nat)
  /-- the lookups, the last first -/
  calls : List (Nat × String)
  /-- what the actions brought, the last first -/
  observations : List Observation
  /-- when the reconciliation was done -/
  endedAt : Option Nat

namespace Run

/-- The script of a number. -/
def script? (r : Run) (number : String) : Option Script :=
  r.scripts.find? (·.number = number)

/-- The next answer about a number. -/
def reply (r : Run) (number : String) : Reply :=
  match r.script? number with
  | none => .error .notRegistered
  | some script =>
    let used := (r.answered.lookup number).getD 0
    (script.replies[min used (script.replies.length - 1)]?).getD (.error .notRegistered)

/-- The run after a number had one more answer. -/
def countAnswer (r : Run) (number : String) : Run :=
  let used := (r.answered.lookup number).getD 0
  { r with answered := (number, used + 1) :: r.answered.filter (·.1 ≠ number) }

/-- Notes when what a worker has just begun will end. -/
def noteWorker (r : Run) (i : Nat) : Run :=
  match r.system.workers[i]? with
  | some (.resolving order) =>
    let latency := ((r.script? order.number).map (·.latency)).getD 0
    { r with
      workEnds := r.workEnds.set i (r.now + latency)
      calls := (r.now, order.number) :: r.calls }
  | some (.reporting _) =>
    { r with
      workEnds := r.workEnds.set i (r.now + r.system.setup.reportTimeout.nanoseconds / 1000000) }
  | _ => r

/-- Notes when the poller, which has just gone on, will go on again, or that it
    is done. -/
def notePoller (r : Run) : Run :=
  match r.system.poller with
  | .pausing =>
    { r with pauseEnds := r.now + r.system.setup.pollInterval.nanoseconds / 1000000 }
  | .returned _ => { r with endedAt := some r.now }
  | _ => r

/-- The move of the poller now, if it has one. -/
def pollerMove? (r : Run) : Option Move :=
  let s := r.system
  match s.poller with
  | .sending .. =>
    if s.shutdown.cancelled then some .handBack
    else if s.queueClosed || s.queue.length < s.setup.queueRoom then some .poll
    else none
  | .pausing =>
    if s.shutdown.cancelled then some .leave
    else if !s.failures.isEmpty then some .collect
    else if r.pauseEnds ≤ r.now then some .wake
    else none
  | .joining _ => if s.workers.all Worker.isOver then some .poll else none
  | .idle | .returned _ => none
  | _ => some .poll

/-- The move of a worker now, if it has one. -/
def workerMove? (r : Run) (i : Nat) : Option WorkerMove :=
  let s := r.system
  let ended : Bool := (r.workEnds.getD i 0) ≤ r.now
  match s.workers[i]? with
  | some .idle =>
    if s.shutdown.cancelled then some .quit
    else if !s.queue.isEmpty then some .take
    else if s.sendingOver then some .quit
    else none
  | some (.resolving order) => if ended then some (.answer (r.reply order.number)) else none
  | some (.reverting ..) => some .revert
  | some (.reporting _) =>
    if s.failures.length < s.setup.errorRoom then some .report
    else if ended then some .giveUp
    else none
  | _ => none

/-- The run after a move of the poller. -/
def movePoller (r : Run) (m : Move) : Run :=
  match r.system.step? m with
  | some system =>
    let r := { r with system }
    match m with
    | .collect => r
    | _ => r.notePoller
  | none => r

/-- The run after a move of a worker. -/
def moveWorker (r : Run) (i : Nat) (m : WorkerMove) : Run :=
  let number? : Option String :=
    match m, r.system.workers[i]? with
    | .answer _, some (.resolving order) => some order.number
    | _, _ => none
  match r.system.step? (.worker i m) with
  | some system =>
    let r := { r with system }
    (match number? with
      | some number => r.countAnswer number
      | none => r).noteWorker i
  | none => r

/-- Makes one move that can be made now, if there is one. -/
def moveNow? (r : Run) : Option Run :=
  match r.pollerMove? with
  | some m => some (r.movePoller m)
  | none =>
    (List.range r.system.workers.length).findSome? fun i =>
      (r.workerMove? i).map (r.moveWorker i)

/-- The times at which something can go on without help from outside. -/
def wakeTimes (r : Run) : List Nat :=
  let poller := if r.system.poller = .pausing then [r.pauseEnds] else []
  let workers := (List.range r.system.workers.length).filterMap fun i =>
    match r.system.workers[i]? with
    | some (.resolving _) | some (.reporting _) => r.workEnds[i]?
    | _ => none
  poller ++ workers

/-- Makes a move from outside. -/
def outside (r : Run) (m : Move) : Run :=
  { r with system := (r.system.step? m).getD r.system }

/-- Carries out an action. -/
def act (r : Run) (action : Action) : Run :=
  let note (r : Run) (o : Observation) : Run := { r with observations := o :: r.observations }
  match action with
  | .requestShutdown => note (r.outside .requestShutdown) .done
  | .abandonShutdown => note (r.outside .abandonShutdown) .done
  | .failCredits count => note (r.outside (.client (.failCredits count))) .done
  | .failMarks status count => note (r.outside (.client (.failMarks status count))) .done
  | .submit number user =>
    note (r.outside (.client (.submit number user r.today)))
      (.submitted (r.system.store.submit number user r.today).1)
  | .look => note r (.seen r.system.stats r.system.store r.endedAt.isSome)

/-- Goes on until nothing can happen any more, or the time is up. -/
def go (timeUp : Nat) : Nat → List Event → Run → Run
  | 0, _, r => r
  | fuel + 1, events, r =>
    match r.moveNow? with
    | some r => go timeUp fuel events r
    | none =>
      let next := ((events.head?.map (·.time)).toList ++ r.wakeTimes).min?
      match next with
      | none => r
      | some time =>
        if time > timeUp then r
        else
          let r := { r with now := max r.now time }
          match events with
          | event :: rest =>
            if event.time ≤ r.now then go timeUp fuel rest (r.act event.action)
            else go timeUp fuel events r
          | [] => go timeUp fuel [] r

end Run

/-- The time that a reconciliation is given after the last event, in
    milliseconds. -/
def patience : Nat := 3600000

/-- Runs a reconciliation on a store while these events happen. -/
def simulate (setup : Setup) (scripts : List Script) (today : Timestamp) (events : List Event)
    (store : Store) : Run :=
  let timeUp := (events.foldl (fun t e => max t e.time) 0) + patience
  let system := ((System.start store).step? (.begin setup .start)).getD (.start store)
  let run : Run :=
    { scripts, today, system, now := 0, pauseEnds := 0
      workEnds := List.replicate setup.workerCount 0, answered := [], calls := []
      observations := [], endedAt := none }
  -- within one millisecond every order and every worker moves a few times at most
  let moves := 16 * (store.orders.length + events.length + setup.workerCount + 8)
  run.go timeUp ((timeUp + events.length + 1) * moves) events

end Loyalty.Reconciliation
