import Loyalty.Proofs.Reconciliation.Phases

/-!
# What a move does

`System.step?_effect` says once and for all what a move does to the store and to
the orders in flight and ahead of the poller: a reconciliation begins, a user
does something, orders change their places, or one order is claimed, released,
settled or fails to be. What is proved of all moves is proved by these cases
(`Effect`).
-/

namespace Loyalty.Reconciliation

/-- What a move from `s` to `s'` does, with what it adds to the log. -/
inductive Effect (s s' : System) : Option Entry → Prop
  /-- A reconciliation begins, with every order in hand that is processing. -/
  | begin (store : s'.store = s.store) (inFlight : s'.inFlight = s.store.ordersIn .processing)
      (ahead : s'.ahead = []) : Effect s s' none
  /-- A user does something, or failures are told. -/
  | client (move : ClientMove) (store : s'.store = move.apply s.store)
      (inFlight : s'.inFlight = s.inFlight) (ahead : s'.ahead = s.ahead) : Effect s s' none
  /-- Orders change their places, or a cycle begins or ends. -/
  | move (store : s'.store = s.store) (inFlight : s'.inFlight.Perm s.inFlight)
      (ahead : s'.ahead = s.ahead ∨ s'.ahead = [] ∨ s'.ahead = s.store.ordersIn .new) :
      Effect s s' none
  /-- The poller claims the next order of its cycle. -/
  | claim (order : Order) (ahead : s.ahead = order :: s'.ahead)
      (store : (Update.mark order .processing).apply s.store = (.ok (), s'.store))
      (inFlight : s'.inFlight.Perm ({ order with status := .processing } :: s.inFlight)) :
      Effect s s' (some (.mark order .processing, .ok ()))
  /-- The next order of the cycle cannot be claimed. -/
  | claimFails (order : Order) (e : Stop)
      (store : (Update.mark order .processing).apply s.store = (.error e, s'.store))
      (mem : order ∈ s.ahead) (inFlight : s'.inFlight.Perm s.inFlight) (ahead : s'.ahead = []) :
      Effect s s' (some (.mark order .processing, .error e))
  /-- An order in flight is released, or would be but for the store. -/
  | release (order : Order) (r : Outcome Unit)
      (store : (Update.mark order .new).apply s.store = (r, s'.store))
      (inFlight : s.inFlight.Perm (order :: s'.inFlight))
      (ahead : s'.ahead = s.ahead ∨ s'.ahead = []) : Effect s s' (some (.mark order .new, r))
  /-- The recovery stops at an order that cannot be released. -/
  | recoveryFails (order : Order) (e : Stop)
      (store : (Update.mark order .new).apply s.store = (.error e, s'.store))
      (mem : order ∈ s.inFlight) (inFlight : s'.inFlight = []) (ahead : s'.ahead = [])
      (workers : s'.workers = []) (poller : s'.poller = .returned (some e)) :
      Effect s s' (some (.mark order .new, .error e))
  /-- An order in flight is settled for good, or its credit overflows. -/
  | settle (order : Order) (settlement : Settlement) (r : Outcome Unit)
      (final : settlement ≠ .giveBack) (done : r = .ok () ∨ r = .error .overflow)
      (store : (Update.settle order settlement).apply s.store = (r, s'.store))
      (inFlight : s.inFlight.Perm (order :: s'.inFlight)) (ahead : s'.ahead = s.ahead) :
      Effect s s' (some (.settle order settlement, r))
  /-- An order in flight cannot be settled, and stays in the hand it is in. -/
  | settleFails (order : Order) (settlement : Settlement) (f : Failure)
      (final : settlement ≠ .giveBack)
      (store : (Update.settle order settlement).apply s.store = (fails f, s'.store))
      (mem : order ∈ s.inFlight) (inFlight : s'.inFlight.Perm s.inFlight)
      (ahead : s'.ahead = s.ahead) : Effect s s' (some (.settle order settlement, fails f))

namespace System

variable {s s' : System} {m : Move} {i : Nat} {order : Order}

/-! ## The effect of every move -/

theorem inHand_replicate_idle (n : Nat) :
    (List.replicate n Worker.idle).filterMap Worker.inHand = [] := by
  rw [List.filterMap_eq_nil_iff]
  intro w hw
  rw [List.eq_of_mem_replicate hw]
  rfl

/-- The poller makes an order new again that is in its hand, or would but for the store. -/
theorem release_effect {p : Poller} (hu : s.update? m = some (.mark order .new))
    (hhand : s.poller.inHand = [order]) (hp : p.inHand = []) (hahead : p.ahead = []) :
    Effect s { s.release order with poller := p } (s.logged? m) := by
  rw [logged?_eq_some (r := (s.store.release order).1) hu rfl]
  refine .release order _ (by rw [release_store]; rfl) (.of_eq ?_) (.inr hahead)
  simp [inFlight, hhand, hp]

/-- A worker goes on with the order that it has, or without one. -/
theorem worker_effect {w w' : Worker} {failures : List Failure}
    (hw : s.workers[i]? = some w) (hhand : w'.inHand = w.inHand) (hu : s.update? m = none) :
    Effect s ({ s with failures }.setWorker i w') (s.logged? m) := by
  rw [logged?_eq_none hu]
  obtain ⟨others, hs, hs'⟩ := inFlight_setWorker (s := { s with failures }) hw w'
  rw [hhand] at hs'
  exact .move rfl (hs'.trans hs.symm) (.inl rfl)

section Answers

variable {reply : Reply} {result : Outcome Unit} {store : Store}

theorem logged?_of_answer (hw : s.workers[i]? = some (.resolving order))
    (hr : s.store.write order (.ofReply reply) = (result, store)) :
    s.logged? (.worker i (.answer reply)) = some (.settle order (.ofReply reply), result) :=
  logged?_eq_some (by simp [update?, hw]) (by rw [Update.apply_settle, hr])

/-- A worker lets its order go when the answer is written down or breaks it off, and also
    when the order cannot be given back. -/
theorem answer_effect {w' : Worker} {stats : Stats} (hw : s.workers[i]? = some (.resolving order))
    (hhand : w'.inHand = none) (hr : s.store.write order (.ofReply reply) = (result, store))
    (hdone : Settlement.ofReply reply = .giveBack ∨ result = .ok () ∨ result = .error .overflow) :
    Effect s ({ s with store, stats }.setWorker i w') (s.logged? (.worker i (.answer reply))) := by
  have happly := (Update.apply_settle s.store order (.ofReply reply)).trans hr
  have hperm : s.inFlight.Perm (order :: ({ s with store, stats }.setWorker i w').inFlight) :=
    inFlight_letGo hw rfl hhand
  rw [logged?_of_answer hw hr]
  by_cases hgive : Settlement.ofReply reply = .giveBack
  · rw [hgive] at happly ⊢
    exact .release order result happly hperm (.inl rfl)
  · exact .settle order _ result hgive (hdone.resolve_left hgive) happly hperm rfl

end Answers

/-- What a move does to the store and to the orders in flight. -/
theorem step?_effect (hs : s.Orderly) (h : s.step? m = some s') : Effect s s' (s.logged? m) := by
  cases step?_step h with
  | begin setup signal _ begins =>
    obtain ⟨hstore, hp, -⟩ := begin?_spec begins
    rw [logged?_eq_none rfl]
    exact .begin hstore (inFlight_of_begin? begins) (by rw [ahead, hp]; rfl)
  | recover order rest count store poller done =>
    rw [Orderly, poller] at hs
    rw [logged?_eq_some (u := .mark order .new) (by simp [update?, poller]) done]
    refine .release order _ done (.of_eq ?_) (.inr rfl)
    simp [inFlight, Poller.inHand, poller]
  | recoveryFails order rest count e store poller fails =>
    rw [Orderly, poller] at hs
    rw [logged?_eq_some (u := .mark order .new) (by simp [update?, poller]) fails]
    refine .recoveryFails order e fails ?_ ?_ rfl hs.1 rfl
    · simp [inFlight, Poller.inHand, poller]
    · simp [inFlight, Poller.inHand, hs]
  | recovered count poller =>
    rw [Orderly, poller] at hs
    rw [logged?_eq_none (by simp [update?, poller])]
    refine .move rfl (.of_eq ?_) (.inr (.inl rfl))
    simp [inFlight, Poller.inHand, poller, hs, inHand_replicate_idle]
  | claim order rest store poller unasked done =>
    rw [logged?_eq_some (u := .mark order .processing) (by simp [update?, poller, unasked]) done]
    exact .claim order (by simp [ahead, Poller.ahead, poller]) done
      (.of_eq (by simp [inFlight, Poller.inHand, poller]))
  | claimFails order rest e store poller unasked fails =>
    rw [logged?_eq_some (u := .mark order .processing) (by simp [update?, poller, unasked]) fails]
    refine .claimFails order e fails ?_ (.of_eq (by simp [inFlight, Poller.inHand, poller])) rfl
    simp [ahead, Poller.ahead, poller]
  | send order rest poller openQueue room =>
    rw [logged?_eq_none (by simp [update?, poller, openQueue])]
    refine .move rfl ?_ (.inl (by simp [ahead, Poller.ahead, poller]))
    simp only [inFlight, Poller.inHand, poller, List.nil_append, List.append_assoc]
    exact List.perm_middle
  | sendFails order rest poller closed =>
    exact release_effect (by simp [update?, poller, closed]) (by rw [poller]; rfl) rfl rfl
  | handBack order rest poller =>
    exact release_effect (by simp [update?, poller]) (by rw [poller]; rfl) rfl rfl
  | putBack failure order poller =>
    exact release_effect (by simp [update?, poller]) (by rw [poller]; rfl) rfl rfl
  | cycle poller =>
    rw [logged?_eq_none (by simp [update?, poller])]
    exact .move rfl (.of_eq (by simp [inFlight, Poller.inHand, poller])) (.inr (.inr rfl))
  | seeRequest poller requested =>
    rcases poller with poller | ⟨order, rest, poller⟩ <;>
      rw [logged?_eq_none (by simp [update?, poller, requested])] <;>
      exact .move rfl (.of_eq (by simp [inFlight, Poller.inHand, poller])) (.inr (.inl rfl))
  | pause poller | wake poller | leave poller | join _ poller | takeOut _ _ _ poller
  | finish _ poller =>
    rw [logged?_eq_none (by simp [update?, poller])]
    exact .move rfl (.of_eq (by simp [inFlight, Poller.inHand, *])) (.inr (.inl rfl))
  | take i order rest worker queue =>
    rw [logged?_eq_none rfl]
    -- The order goes from the head of the queue into the hand of the worker.
    obtain ⟨others, ht, ht'⟩ :=
      inFlight_setWorker (s := { s with queue := rest }) worker (.resolving order)
    have hperm : s.inFlight.Perm (order :: { s with queue := rest }.inFlight) := by
      simp only [inFlight, queue, List.append_assoc]
      exact List.perm_middle
    exact .move rfl (ht'.trans ((ht.cons order).symm.trans hperm.symm)) (.inl rfl)
  | settle i order reply store worker done =>
    exact answer_effect worker rfl done (.inr (.inl rfl))
  | overflow i order reply store worker overflows =>
    exact answer_effect worker rfl overflows (.inr (.inr rfl))
  | giveBackFails i order reply f store worker giveBack fails =>
    exact answer_effect worker rfl fails (.inl giveBack)
  | settleFails i order reply f store worker final fails =>
    have happly := (Update.apply_settle s.store order (.ofReply reply)).trans fails
    rw [logged?_of_answer worker fails]
    obtain ⟨others, ht, ht'⟩ := inFlight_setWorker worker (.reverting order f)
    exact .settleFails order _ f final happly (mem_inFlight_of_worker worker rfl)
      (ht'.trans ht.symm) rfl
  | revert i order failure f worker =>
    rw [logged?_eq_some (r := (s.store.release order).1) (u := .mark order .new)
      (by simp [update?, worker]) rfl]
    exact .release order _ rfl (inFlight_letGo worker rfl rfl) (.inl rfl)
  | quit i worker => exact worker_effect worker rfl rfl
  | report i failure worker => exact worker_effect worker rfl rfl
  | giveUp i failure worker => exact worker_effect worker rfl rfl
  | client move =>
    rw [logged?_eq_none rfl]
    exact .client move rfl rfl rfl
  | renew | collect | requestShutdown | abandonShutdown =>
    rw [logged?_eq_none rfl]
    exact .move rfl (.refl _) (.inl rfl)

end System
end Loyalty.Reconciliation
