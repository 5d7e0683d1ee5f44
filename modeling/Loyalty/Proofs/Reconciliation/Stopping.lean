import Loyalty.Proofs.Reconciliation.Log
import Loyalty.Proofs.Reconciliation.Steps

/-!
# What stops a reconciliation

A reconciliation returns with a failure if the store fails the poller, and then only: when
it recovers an order, or when it claims one (`System.stop?`). What the store refuses to a
worker, and what becomes of the report of it, is no reason to stop. The poller would also
stop if the queue took no more orders, but the queue is closed by the poller itself, when
all workers have ended (`System.KeepsQueue`).

* `failure?_of_step?`: the poller has a failure after a move if it had one before, or if
  the store fails it at this move;
* `failure?_of_run?`: so it has one after a run if the store failed it at one of the moves;
* `stopped_by_store`: this for a whole reconciliation, up to its return.
-/

namespace Loyalty.Reconciliation

/-- The failure that the poller returns with or is going to return with. -/
def Poller.failure? : Poller → Option Stop
  | joining failure | draining failure _ | returned failure => failure
  | _ => none

/-- Whether the poller has left the queue open. -/
def Poller.keepsQueue : Poller → Bool
  | draining .. | returned _ => false
  | _ => true

/-- The failure, if an operation ends with one. -/
def failureOf? : Outcome Unit → Option Stop
  | .error e => some e
  | .ok _ => none

namespace System

variable {s s' : System} {m : Move} {moves : List Move} {e : Stop}

/-- The failure by which the store stops the poller at a move: of releasing an order while
    it recovers orders, or of claiming an order. -/
def stop? (s : System) : Move → Option Stop
  | .poll =>
    match s.poller with
    | .recovering (order :: _) _ => failureOf? (s.store.release order).1
    | .dispatching (order :: _) =>
      if s.shutdown.requested then none else failureOf? (s.store.claim order).1
    | _ => none
  | _ => none

/-- The queue is open as long as the poller has not closed it. -/
def KeepsQueue (s : System) : Prop := s.poller.keepsQueue → s.queueClosed = false

/-- The poller finds the queue open when it is about to put an order into it. -/
theorem KeepsQueue.of_sending {order : Order} {rest : List Order} (hs : s.KeepsQueue)
    (hp : s.poller = .sending order rest) : s.queueClosed = false :=
  hs (by rw [hp]; rfl)

theorem keepsQueue_of_begin? {setup : Setup} {signal : Shutdown}
    (h : s.begin? setup signal = some s') : s'.KeepsQueue := by
  unfold begin? at h
  split at h <;> cases h <;> exact fun _ => rfl

/-- Every move leaves the queue open, but the one by which the poller begins to empty it. -/
theorem KeepsQueue.step? (hs : s.KeepsQueue) (h : s.step? m = some s') : s'.KeepsQueue := by
  cases step?_step h with
  | begin setup signal _ begins => exact keepsQueue_of_begin? begins
  | recoveryFails | join | takeOut | putBack | finish => exact nofun
  | sendFails order rest poller closed => simp [hs.of_sending poller] at closed
  | handBack order rest poller =>
    intro _
    rw [release_queueClosed]
    exact hs.of_sending poller
  | seeRequest poller =>
    intro _
    rcases poller with poller | ⟨order, rest, poller⟩ <;> exact hs (by rw [poller]; rfl)
  | recover _ _ _ _ poller | recovered _ poller | cycle poller | claim _ _ _ poller
  | claimFails _ _ _ _ poller | send _ _ poller | pause poller | wake poller | leave poller =>
    exact fun _ => hs (by rw [poller]; rfl)
  | _ => exact hs

theorem KeepsQueue.run? (hs : s.KeepsQueue) (h : s.run? moves = some s') : s'.KeepsQueue := by
  induction moves generalizing s with
  | nil =>
    cases h
    exact hs
  | cons m moves ih =>
    obtain ⟨t, ht, hrun⟩ := run?_cons h
    exact ih (hs.step? ht) hrun

/-- The poller has a failure after a move if it had it before, or if the store fails it. -/
theorem failure?_of_step? (hs : s.KeepsQueue) (hm : ∀ setup signal, m ≠ .begin setup signal)
    (h : s.step? m = some s') :
    s'.poller.failure? = some e ↔ s.poller.failure? = some e ∨ s.stop? m = some e := by
  cases step?_step h with
  | begin setup signal => exact absurd rfl (hm setup signal)
  | sendFails order rest poller closed => simp [hs.of_sending poller] at closed
  | recover order rest count store poller done =>
    simp [stop?, poller, done, Poller.failure?, failureOf?]
  | recoveryFails order rest count e' store poller fails =>
    simp [stop?, poller, fails, Poller.failure?, failureOf?]
  | claim order rest store poller unasked done =>
    simp [stop?, poller, unasked, done, Poller.failure?, failureOf?]
  | claimFails order rest e' store poller unasked fails =>
    simp [stop?, poller, unasked, fails, Poller.failure?, failureOf?]
  | seeRequest poller requested =>
    rcases poller with poller | ⟨order, rest, poller⟩ <;>
      simp [stop?, poller, requested, Poller.failure?]
  | recovered _ poller | cycle poller | send _ _ poller | handBack _ _ poller | pause poller
  | wake poller | leave poller | join _ poller | takeOut _ _ _ poller | putBack _ _ poller
  | finish _ poller =>
    simp [stop?, poller, Poller.failure?]
  | _ => simp [stop?]

/-- It has one after a run if it had it before, or if the store failed it at one move. -/
theorem failure?_of_run? (hs : s.KeepsQueue) (hbegin : ∀ setup signal, .begin setup signal ∉ moves)
    (hrun : s.run? moves = some s') :
    s'.poller.failure? = some e ↔ s.poller.failure? = some e ∨
      ∃ earlier m later u, moves = earlier ++ m :: later ∧ s.run? earlier = some u ∧
        u.stop? m = some e := by
  induction moves generalizing s with
  | nil =>
    cases hrun
    simp
  | cons m moves ih =>
    obtain ⟨t, ht, hrun⟩ := run?_cons hrun
    obtain ⟨hm, hmoves⟩ := not_begin_cons hbegin
    rw [ih (hs.step? ht) hmoves hrun, failure?_of_step? hs hm ht, or_assoc]
    refine or_congr_right ⟨?_, ?_⟩
    · rintro (hstop | ⟨earlier, m', later, u, rfl, hu, hstop⟩)
      · exact ⟨[], m, moves, s, rfl, rfl, hstop⟩
      · exact ⟨m :: earlier, m', later, u, rfl, (run?_of_step? ht).trans hu, hstop⟩
    · rintro ⟨_ | ⟨m', earlier⟩, m'', later, u, heq, hu, hstop⟩
      · cases heq
        cases hu
        exact .inl hstop
      · cases heq
        rw [run?_of_step? ht] at hu
        exact .inr ⟨earlier, m'', later, u, rfl, hu, hstop⟩

end System

/-- A reconciliation that has returned did so with a failure if the store failed the poller
    at one of the moves, when it recovered an order or when it claimed one, and then with
    that failure; nothing else makes it return with one. And whenever the poller was about
    to put an order into the queue, the queue was open. -/
theorem stopped_by_store {moves : List Move} {t s : System} {setup : Setup} {signal : Shutdown}
    {failure : Option Stop} (hrun : t.run? (.begin setup signal :: moves) = some s)
    (hbegin : ∀ setup signal, .begin setup signal ∉ moves)
    (hreturned : s.poller = .returned failure) :
    (∀ e, failure = some e ↔ ∃ earlier m later u, moves = earlier ++ m :: later ∧
      t.run? (.begin setup signal :: earlier) = some u ∧ u.stop? m = some e) ∧
    ∀ earlier later u order rest, moves = earlier ++ later →
      t.run? (.begin setup signal :: earlier) = some u → u.poller = .sending order rest →
      u.queueClosed = false := by
  obtain ⟨b, hb, hrun⟩ := System.run?_cons hrun
  have hkeeps : b.KeepsQueue := System.keepsQueue_of_begin? hb
  have hfresh : b.poller.failure? = none := by
    rw [(System.begin?_spec hb).2.1]
    rfl
  simp only [System.run?_of_step? hb]
  refine ⟨fun e => ?_, fun earlier later u order rest _ hu hp => (hkeeps.run? hu).of_sending hp⟩
  have hiff := System.failure?_of_run? (e := e) hkeeps hbegin hrun
  rw [hreturned, hfresh] at hiff
  simpa [Poller.failure?] using hiff

/-- A single claim is refused: the poller waits for the only worker to end, and returns. -/
def refusedClaim : List Move := [.poll, .poll, .poll, .worker 0 .quit, .poll, .poll]

theorem stopped_by_store_claim :
    let setup : Setup := { Setup.standard with workers := 1 }
    let refused : Stop := .failure (.internal (.markRefused 1 .processing))
    ∃ t s : System, (System.start .empty).run? [.client (.register 1 [] "ann" "pw"),
        .client (.submit "18" 1 ⟨0, 0⟩), .client (.failMarks .processing 1)] = some t ∧
      t.run? (.begin setup .start :: refusedClaim) = some s ∧
      s.poller = .returned (some refused) ∧
      ∃ earlier m later u, refusedClaim = earlier ++ m :: later ∧
        t.run? (.begin setup .start :: earlier) = some u ∧ u.stop? m = some refused := by
  intro setup refused
  obtain ⟨t, ht⟩ : ∃ t : System, (System.start .empty).run? [.client (.register 1 [] "ann" "pw"),
      .client (.submit "18" 1 ⟨0, 0⟩), .client (.failMarks .processing 1)] = some t := ⟨_, rfl⟩
  obtain ⟨s, hrun, hreturned⟩ : ∃ s : System,
      t.run? (.begin setup .start :: refusedClaim) = some s ∧
        s.poller = .returned (some refused) := by
    cases ht
    exact ⟨_, rfl, rfl⟩
  have hstopped := (stopped_by_store hrun (by simp [refusedClaim]) hreturned).1 refused
  exact ⟨t, s, ht, hrun, hreturned, hstopped.1 rfl⟩

end Loyalty.Reconciliation
