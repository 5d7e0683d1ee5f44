import Loyalty.Proofs.Authority.Gate
import Loyalty.Proofs.Reconciliation.Custody
import Loyalty.Reconciliation.Lookup

/-!
# Errands

A worker with an order in hand is on an errand from when it calls the authority until its
request has ended. Workers look at the shutdown between two orders, so a shutdown does not
call a worker back, also when it waits for the end of a pause: it goes on when the pause
is over and sends its request, and the reconciliation does not return before it.

* `Errand.step?`: every move but the end of its request keeps a worker on its errand;
* `Errand.run?`: so does every run, which counts the requests of the worker;
* `finished_in_hand`: what becomes of an errand after a shutdown;
* `asked_after_shutdown`: a worker that is sent to wait may well ask after the shutdown.
-/

namespace Loyalty.Reconciliation

namespace System

variable {s s' : System} {m : Move} {i : Nat} {w : Worker} {order : Order}

/-- A worker has the order in hand to have it resolved, and the store has it as it is
    there, as processing. -/
def HasInHand (s : System) (i : Nat) (order : Order) : Prop :=
  s.workers[i]? = some (.resolving order) ∧ s.store.order? order.id = some order ∧
    order.status = .processing

theorem hasInHand_of_custody (hs : Custody s) (hw : s.workers[i]? = some (.resolving order)) :
    s.HasInHand i order := by
  have hmem : order ∈ s.inFlight := mem_inFlight_of_worker hw rfl
  exact ⟨hw, hs.inFlight.stored order hmem, hs.inFlight.status_eq order hmem⟩

/-- No reconciliation has returned while a worker has something to do. -/
theorem Orderly.not_returned (hs : s.Orderly) (hw : s.workers[i]? = some w)
    (hnot : w.isOver = false) (failure : Option Stop) : s.poller ≠ .returned failure := by
  intro hp
  rw [Orderly, hp] at hs
  simp [isOver_of_all hs.1 hw] at hnot

/-- What a worker does leaves the others as they are. -/
theorem getElem?_setWorker_of_ne {j : Nat} {w' : Worker} (h : j ≠ i) :
    (s.setWorker j w').workers[i]? = s.workers[i]? :=
  List.getElem?_set_ne h

/-- A worker has its order in hand until it gets an answer. -/
theorem resolving_of_step? (hs : s.Orderly) (hw : s.workers[i]? = some (.resolving order))
    (hm : ∀ reply, m ≠ .worker i (.answer reply)) (h : s.step? m = some s') :
    s'.workers[i]? = some (.resolving order) := by
  -- Whoever makes another move is another worker.
  have hne {j : Nat} {w : Worker} (hj : s.workers[j]? = some w) (hother : w ≠ .resolving order) :
      j ≠ i := by
    rintro rfl
    exact hother (Option.some.inj (hj.symm.trans hw))
  cases step?_step h with
  | begin setup signal _ begins =>
    unfold begin? at begins
    split at begins
    next hp =>
      rw [Orderly, hp] at hs
      simp [hs.1] at hw
    next hp => exact absurd hp (hs.not_returned hw rfl _)
    · cases begins
  | recovered count poller =>
    rw [Orderly, poller] at hs
    simp [hs.1] at hw
  | take j _ _ worker | quit j worker | revert j _ _ _ worker | report j _ worker
  | giveUp j _ worker => exact (getElem?_setWorker_of_ne (hne worker (by simp))).trans hw
  | settle j _ reply | overflow j _ reply | giveBackFails j _ reply | settleFails j _ reply =>
    have hji : j ≠ i := by
      rintro rfl
      exact hm reply rfl
    exact (getElem?_setWorker_of_ne hji).trans hw
  | sendFails | handBack | putBack => simpa using hw
  | _ => exact hw

end System

/-- Whether a move is the request of this worker. -/
def LookupMove.sends (i : Nat) (m : LookupMove) : Bool :=
  match m with
  | caller move => move = .send i
  | _ => false

/-- Whether a move is the end of the request of this worker. -/
def LookupMove.delivers (i : Nat) (m : LookupMove) : Bool :=
  match m with
  | deliver j _ => j = i
  | _ => false

namespace Lookup

variable {a : AuthoritySettings} {l l' t : Lookup} {m : LookupMove} {moves : List LookupMove}
  {i : Nat} {order : Order}

/-- What a move of `l` leads to, and what it needs. -/
inductive Step (a : AuthoritySettings) (l : Lookup) : LookupMove → Lookup → Prop
  | system (move : Move) (system : System) (noAnswer : isAnswer move = false)
      (steps : l.system.step? move = some system) : Step a l (.system move) { l with system }
  | caller (move : CallerMove) (callers : Callers) (onItsWay : l.isStep move)
      (steps : l.callers.step? move = some callers) : Step a l (.caller move) { l with callers }
  | deliver (i : Nat) (delivery : Delivery) (callers : Callers) (system : System)
      (answers : l.callers.step? (.answer i (a.interpret delivery).2) = some callers)
      (settles : l.system.step? (.worker i (.answer (a.interpret delivery).1)) = some system) :
      Step a l (.deliver i delivery) { system, callers }

theorem step?_step (h : l.step? a m = some t) : l.Step a m t := by
  cases m with
  | system move =>
    simp only [step?] at h
    split_ifs at h with hanswer
    obtain ⟨system, hsystem, rfl⟩ := Option.map_eq_some_iff.1 h
    exact .system move system (Bool.not_eq_true _ ▸ hanswer) hsystem
  | caller move =>
    simp only [step?] at h
    split_ifs at h with hstep
    obtain ⟨callers, hcallers, rfl⟩ := Option.map_eq_some_iff.1 h
    exact .caller move callers hstep hcallers
  | deliver i delivery =>
    obtain ⟨callers, hcallers, h⟩ := Option.bind_eq_some_iff.1 h
    obtain ⟨system, hsystem, h⟩ := Option.bind_eq_some_iff.1 h
    cases h
    exact .deliver i delivery callers system hcallers hsystem

/-- A run is made of the moves before one of its moves, this move, and those after it. -/
theorem run?_append_cons {before after : List LookupMove}
    (h : l.run? a (before ++ m :: after) = some l') :
    ∃ u v, l.run? a before = some u ∧ u.step? a m = some v ∧ v.run? a after = some l' := by
  induction before generalizing l with
  | nil =>
    obtain ⟨v, hv, hafter⟩ := Option.bind_eq_some_iff.1 h
    exact ⟨l, v, rfl, hv, hafter⟩
  | cons first before ih =>
    obtain ⟨t, ht, hrun⟩ := Option.bind_eq_some_iff.1 h
    obtain ⟨u, v, hu, hv, hafter⟩ := ih hrun
    exact ⟨u, v, Option.bind_eq_some_iff.2 ⟨t, ht, hu⟩, hv, hafter⟩

/-- The orders in flight are in custody, and the workers stand at the gate in order. -/
structure Sound (l : Lookup) : Prop where
  custody : Custody l.system
  gated : l.callers.Gated

theorem Sound.step? (hs : l.Sound) (h : l.step? a m = some t) : t.Sound := by
  cases step?_step h with
  | system move system _ steps => exact ⟨hs.custody.step? steps, hs.gated⟩
  | caller move callers _ steps => exact ⟨hs.custody, hs.gated.step? steps⟩
  | deliver i delivery callers system answers settles =>
    exact ⟨hs.custody.step? settles, hs.gated.step? answers⟩

theorem Sound.run? (hs : l.Sound) (h : l.run? a moves = some l') : l'.Sound := by
  induction moves generalizing l with
  | nil =>
    cases h
    exact hs
  | cons m moves ih =>
    obtain ⟨t, ht, hrun⟩ := Option.bind_eq_some_iff.1 h
    exact ih (hs.step? ht) hrun

/-- A worker has called the authority about the order and has no answer yet. -/
structure Errand (l : Lookup) (i : Nat) (order : Order) : Prop extends Sound l where
  resolving : l.system.workers[i]? = some (.resolving order)
  called : l.callers.phase i ≠ .away

namespace Errand

theorem hasInHand (h : l.Errand i order) : l.system.HasInHand i order :=
  System.hasInHand_of_custody h.custody h.resolving

theorem not_returned (h : l.Errand i order) (failure : Option Stop) :
    l.system.poller ≠ .returned failure :=
  h.custody.orderly.not_returned h.resolving rfl failure

/-- Every move but the end of its request keeps a worker on its errand. -/
theorem step? (he : l.Errand i order) (hm : m.delivers i = false) (h : l.step? a m = some t) :
    t.Errand i order ∧
      (t.callers.phase i).asked = (l.callers.phase i).asked + if m.sends i then 1 else 0 := by
  have hsound : t.Sound := he.toSound.step? h
  cases step?_step h with
  | system move system noAnswer steps =>
    have hmove : ∀ reply, move ≠ .worker i (.answer reply) := by
      rintro reply rfl
      cases noAnswer
    exact ⟨⟨hsound, System.resolving_of_step? he.custody.orderly he.resolving hmove steps,
      he.called⟩, rfl⟩
  | caller move callers onItsWay steps =>
    have hmove : ∀ pause, move ≠ .answer i pause := by
      rintro pause rfl
      cases onItsWay
    obtain ⟨hcalled, hasked⟩ := Callers.asked_of_step? he.gated he.called hmove steps
    exact ⟨⟨hsound, he.resolving, hcalled⟩, by simp [hasked, LookupMove.sends]⟩
  | deliver j delivery callers system answers settles =>
    have hji : j ≠ i := of_decide_eq_false hm
    have hmove : ∀ pause, CallerMove.answer j (a.interpret delivery).2 ≠ .answer i pause := by
      rintro pause ⟨⟩
      exact hji rfl
    have hmove' : ∀ reply, Move.worker j (.answer (a.interpret delivery).1) ≠
        .worker i (.answer reply) := by
      rintro reply ⟨⟩
      exact hji rfl
    obtain ⟨hcalled, hasked⟩ := Callers.asked_of_step? he.gated he.called hmove answers
    exact ⟨⟨hsound, System.resolving_of_step? he.custody.orderly he.resolving hmove' settles,
      hcalled⟩, hasked⟩

/-- A run without the end of its request keeps a worker on its errand. -/
theorem run? (he : l.Errand i order) (hm : ∀ m ∈ moves, m.delivers i = false)
    (h : l.run? a moves = some t) :
    t.Errand i order ∧
      (t.callers.phase i).asked = (l.callers.phase i).asked + moves.countP (·.sends i) := by
  induction moves generalizing l with
  | nil =>
    cases h
    exact ⟨he, rfl⟩
  | cons m moves ih =>
    obtain ⟨u, hu, hrun⟩ := Option.bind_eq_some_iff.1 h
    obtain ⟨hfirst, hrest⟩ := List.forall_mem_cons.1 hm
    obtain ⟨herrand, hasked⟩ := he.step? hfirst hu
    obtain ⟨herrand', hasked'⟩ := ih herrand hrest hrun
    refine ⟨herrand', ?_⟩
    rw [hasked', hasked, List.countP_cons]
    omega

/-- A request ends when it was sent, and settles the order. -/
theorem deliver {delivery : Delivery} (he : l.Errand i order)
    (h : l.step? a (.deliver i delivery) = some t) :
    (l.callers.phase i).asked = 1 ∧
      t.system = l.system.answer i order (a.interpret delivery).1 := by
  cases step?_step h with
  | deliver _ _ callers system answers settles =>
    refine ⟨by rw [Callers.asking_of_answer answers]; rfl, ?_⟩
    simp only [System.step?, System.work?, he.resolving, Option.some.injEq] at settles
    exact settles.symm

end Errand

/-- A run with the end of a request goes on from the first of them. -/
theorem exists_delivery (h : ∃ m ∈ moves, m.delivers i) :
    ∃ way delivery rest, moves = way ++ .deliver i delivery :: rest ∧
      ∀ m ∈ way, m.delivers i = false := by
  obtain ⟨m, hfind⟩ := Option.isSome_iff_exists.1 (List.find?_isSome.2 h)
  obtain ⟨hm, way, rest, rfl, hway⟩ := List.find?_eq_some_iff_append.1 hfind
  cases m with
  | system move | caller move => cases hm
  | deliver j delivery =>
    obtain rfl : j = i := of_decide_eq_true hm
    exact ⟨way, delivery, rest, rfl, fun m hmem => by simpa using hway m hmem⟩

end Lookup

open Lookup

/-- Whatever happens after a shutdown, a worker that it finds waiting for the end of a pause
    has its order in hand, and the store has it as processing, until a request of this
    worker has ended. Until then it sends one request only, and the reconciliation does not
    return; and when the request ends, it was sent, and settles the order. -/
theorem finished_in_hand (a : AuthoritySettings) {store : Store} {now : Nat} {cooldown : Cooldown}
    {before moves : List LookupMove} {l t l' : Lookup} {i : Nat} {order : Order}
    (hstore : store.Reachable) (hbefore : (Lookup.start store now cooldown).run? a before = some l)
    (hworker : l.system.workers[i]? = some (.resolving order))
    (hwaits : (l.callers.phase i).waits)
    (hshutdown : l.step? a (.system .requestShutdown) = some t)
    (hrun : t.run? a moves = some l') :
    ((∀ m ∈ moves, m.delivers i = false) ∧ moves.countP (·.sends i) ≤ 1 ∧
      l'.system.HasInHand i order ∧ ∀ failure, l'.system.poller ≠ .returned failure) ∨
    ∃ way delivery rest u v, moves = way ++ .deliver i delivery :: rest ∧
      (∀ m ∈ way, m.delivers i = false) ∧ way.countP (·.sends i) = 1 ∧
      t.run? a way = some u ∧ u.system.HasInHand i order ∧
      u.step? a (.deliver i delivery) = some v ∧
      v.system = u.system.answer i order (a.interpret delivery).1 := by
  have hl : l.Sound := Sound.run? ⟨.start hstore.numbered, .start now cooldown⟩ hbefore
  have hcalled : l.callers.phase i ≠ .away := by
    intro haway
    simp [haway, CallerPhase.waits] at hwaits
  obtain ⟨herrand, hasked⟩ := Errand.step? ⟨hl, hworker, hcalled⟩ rfl hshutdown
  -- Whoever waits has asked nothing, and has asked once when it gets its answer.
  have hnothing : (t.callers.phase i).asked = 0 :=
    hasked.trans (CallerPhase.asked_of_waits hwaits)
  by_cases hdelivery : ∃ m ∈ moves, m.delivers i
  · obtain ⟨way, delivery, rest, rfl, hway⟩ := exists_delivery hdelivery
    obtain ⟨u, v, hu, hv, -⟩ := run?_append_cons hrun
    obtain ⟨herrand', hcount⟩ := herrand.run? hway hu
    obtain ⟨honce, hsettled⟩ := herrand'.deliver hv
    rw [honce, hnothing, Nat.zero_add] at hcount
    exact .inr ⟨way, delivery, rest, u, v, rfl, hway, hcount.symm, hu, herrand'.hasInHand, hv,
      hsettled⟩
  · have hnone : ∀ m ∈ moves, m.delivers i = false := by simpa using hdelivery
    obtain ⟨herrand', hcount⟩ := herrand.run? hnone hrun
    have hle : (l'.callers.phase i).asked ≤ 1 := CallerPhase.asked_le_one _
    exact .inl ⟨hnone, by omega, herrand'.hasInHand, herrand'.not_returned⟩

/-- The only worker is told to wait for five seconds. In the next cycle it gets the order
    again, and goes to sleep. -/
def sentToWait : List LookupMove :=
  [.system (.client (.register 1 [] "ann" "pw")), .system (.client (.submit "18" 1 ⟨0, 0⟩)),
    .system (.begin { Setup.standard with workers := 1 } .start), .system .poll, .system .poll,
    .system .poll, .system .poll, .system (.worker 0 .take), .caller (.arrive 0),
    .caller (.send 0), .deliver 0 (.response 429 [("retry-after", Text.bytes "5")] none),
    .system .poll, .system .wake, .system .poll, .system .poll, .system .poll,
    .system (.worker 0 .take), .caller (.arrive 0), .caller (.look 0)]

/-- After the five seconds it sends its request, and the order is processed. -/
def asksAndEnds : List LookupMove :=
  [.caller (.pass (.seconds 5)), .caller (.wake 0), .caller (.look 0), .caller (.clear 0),
    .caller (.send 0), .deliver 0 (.response 200 [] (some (Text.bytes "[\"18\",\"PROCESSED\",7]"))),
    .system .poll, .system .leave, .system (.worker 0 .quit), .system .poll, .system .poll]

theorem finished_in_hand_processed :
    let a : AuthoritySettings := ⟨"http://authority", .seconds 5, .seconds 60, .seconds 600⟩
    let order : Order := ⟨1, 1, "18", .processing, none, ⟨0, 0⟩⟩
    ∃ l t l' : Lookup, (Lookup.start .empty 0 .idle).run? a sentToWait = some l ∧
      l.system.workers[0]? = some (.resolving order) ∧ (l.callers.phase 0).waits ∧
      l.step? a (.system .requestShutdown) = some t ∧ t.run? a asksAndEnds = some l' ∧
      l'.system.poller = .returned none ∧
      ∃ way delivery rest u v, asksAndEnds = way ++ .deliver 0 delivery :: rest ∧
        way.countP (·.sends 0) = 1 ∧ t.run? a way = some u ∧ u.system.HasInHand 0 order ∧
        u.step? a (.deliver 0 delivery) = some v ∧
        v.system = u.system.answer 0 order (a.interpret delivery).1 := by
  intro a order
  have hend : ((Lookup.start .empty 0 .idle).run? a
      (sentToWait ++ .system .requestShutdown :: asksAndEnds)).map (·.system.poller) =
        some (.returned none) := by
    decide +kernel
  obtain ⟨l', hrun, hreturned⟩ := Option.map_eq_some_iff.1 hend
  obtain ⟨l, t, hbefore, hshutdown, hrun⟩ := run?_append_cons hrun
  have hasleep : ((Lookup.start .empty 0 .idle).run? a sentToWait).map
      (fun l => (l.system.workers[0]?, (l.callers.phase 0).waits)) =
        some (some (.resolving order), true) := by
    decide +kernel
  obtain ⟨hworker, hwaits⟩ : l.system.workers[0]? = some (.resolving order) ∧
      (l.callers.phase 0).waits = true := by
    simpa [hbefore] using hasleep
  obtain ⟨-, -, -, hopen⟩ | ⟨way, delivery, rest, u, v, hmoves, -, honce, hu, hinHand, hv,
      hsettled⟩ :=
    finished_in_hand a Store.reachable_empty hbefore hworker hwaits hshutdown hrun
  · exact absurd hreturned (hopen none)
  · exact ⟨l, t, l', hbefore, hworker, hwaits, hshutdown, hrun, hreturned, way, delivery, rest, u,
      v, hmoves, honce, hu, hinHand, hv, hsettled⟩

/-- A worker sleeps in a pause when the shutdown is asked for. It sends its request when
    the pause is over, and its order does not become new again, but is processed. -/
theorem asked_after_shutdown :
    let a : AuthoritySettings := ⟨"http://authority", .seconds 5, .seconds 60, .seconds 600⟩
    ∃ l t l' : Lookup, (Lookup.start .empty 0 .idle).run? a sentToWait = some l ∧
      l.callers.phase 0 = .sleeping (Span.seconds 5).nanoseconds ∧
      l.step? a (.system .requestShutdown) = some t ∧ t.run? a asksAndEnds = some l' ∧
      l'.callers.requests = [(Span.seconds 5).nanoseconds, 0] ∧
      (l'.system.store.order? 1).map (·.status) = some .processed := by
  intro a
  have hend : ((Lookup.start .empty 0 .idle).run? a
      (sentToWait ++ .system .requestShutdown :: asksAndEnds)).map
        (fun l => (l.callers.requests, (l.system.store.order? 1).map (·.status))) =
          some ([(Span.seconds 5).nanoseconds, 0], some .processed) := by
    decide +kernel
  obtain ⟨l', hrun, hanswered⟩ := Option.map_eq_some_iff.1 hend
  obtain ⟨l, t, hbefore, hshutdown, hrun⟩ := run?_append_cons hrun
  have hasleep : ((Lookup.start .empty 0 .idle).run? a sentToWait).map (·.callers.phase 0) =
      some (.sleeping (Span.seconds 5).nanoseconds) := by
    decide +kernel
  rw [hbefore] at hasleep
  obtain ⟨hrequests, hprocessed⟩ := Prod.mk.inj hanswered
  exact ⟨l, t, l', hbefore, Option.some.inj hasleep, hshutdown, hrun, hrequests, hprocessed⟩

end Loyalty.Reconciliation
