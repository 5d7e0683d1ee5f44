import Loyalty.Proofs.Ledger.Representation
import Loyalty.Proofs.Ledger.Services

/-!
# Whatever happens to a store

A history may mix operations of the store itself, with any arguments, and deeds of users
and of the reconciliation (`Event`). All of it is done by operations, one after another, so
that what these keep is kept by any history (`happenAll_induct`): the store stays reachable
(`reachable_happenAll`), and its rows stay (`keeps_happenAll`). Users come by events that
create them, and in no other way (`creates_of_mem_users`).
-/

namespace Loyalty.Store

open Relation

/-- Something that happens to a store. -/
inductive Event
  | operation (operation : Operation)
  | deed (deed : Deed)

/-- The store after an event. -/
def happen (s : Store) : Event → Store
  | .operation operation => s.operate operation
  | .deed deed => s.perform deed

/-- The store after some events. -/
def happenAll (s : Store) (events : List Event) : Store := events.foldl happen s

/-- The operations that an event is made of. -/
inductive Event.Does : Event → Operation → Prop
  | operation (operation : Operation) : Does (.operation operation) operation
  | deed {deed : Deed} {operation : Operation} (does : deed.Does operation) :
    Does (.deed deed) operation

/-- An event makes a user of that login, if there is none. -/
inductive Event.Creates (login : String) : Event → Prop
  | user (passwordHash : String) : Creates login (.operation (.createUser login passwordHash))
  | account (rounds : Nat) (salt : List UInt8) {text password : String}
      (read : Credentials.read text password = .ok login) :
    Creates login (.deed (.register rounds salt text password))

variable {s : Store} {event : Event} {events : List Event} {operation : Operation}

/-! ## Induction along events -/

theorem happen_induct {P : Store → Prop} (hs : P s)
    (hstep : ∀ t operation, event.Does operation → P t → P (t.operate operation)) :
    P (s.happen event) := by
  rcases event with operation | deed
  · exact hstep s operation (.operation operation) hs
  · have hsteps : ReflTransGen deed.Step s (s.happen (.deed deed)) := perform_steps s deed
    generalize s.happen (.deed deed) = t at hsteps ⊢
    induction hsteps with
    | refl => exact hs
    | tail _ hlast ih =>
      obtain ⟨operation, hdoes, rfl⟩ := hlast
      exact hstep _ operation (.deed hdoes) ih

theorem happenAll_induct {P : Store → Prop} (hs : P s)
    (hstep : ∀ t, ∀ event ∈ events, ∀ operation, event.Does operation → P t →
      P (t.operate operation)) :
    P (s.happenAll events) := by
  induction events generalizing s with
  | nil => exact hs
  | cons event events ih =>
    refine ih (happen_induct hs fun t => hstep t event List.mem_cons_self) ?_
    intro t event hevent
    exact hstep t event (List.mem_cons_of_mem _ hevent)

theorem reachable_happenAll (hs : s.Reachable) (events : List Event) :
    (s.happenAll events).Reachable :=
  happenAll_induct hs fun _ _ _ operation _ ht => ht.operate operation

theorem keeps_happenAll (s : Store) (events : List Event) : s.Keeps (s.happenAll events) :=
  happenAll_induct (Keeps.refl s) fun t _ _ operation _ ht => ht.trans (keeps_operate t operation)

/-! ## Where users come from -/

theorem Event.Does.creates {login passwordHash : String}
    (h : event.Does (.createUser login passwordHash)) : event.Creates login := by
  cases h with
  | operation => exact .user passwordHash
  | deed does =>
    cases does with
    | register read => exact .account _ _ read

/-- An operation adds no user but the one that it creates. -/
theorem Change.mem_users {s' : Store} (h : s.Change operation s') {user : User}
    (huser : user ∈ s'.users) :
    user ∈ s.users ∨ ∃ passwordHash, operation = .createUser user.login passwordHash := by
  cases h with
  | stays operation s' rows =>
    rw [eq_of_rows rows] at huser
    exact .inl huser
  | user login passwordHash fresh =>
    rw [addUser, List.mem_append, List.mem_singleton] at huser
    rcases huser with huser | rfl
    · exact .inl huser
    · exact .inr ⟨passwordHash, rfl⟩
  | order | marked | credited | withdrawn => exact .inl huser

/-- The users are those that were there and those that were created. -/
theorem creates_of_mem_users {user : User} (h : user ∈ (s.happenAll events).users) :
    user ∈ s.users ∨ ∃ event ∈ events, event.Creates user.login := by
  revert user
  refine @happenAll_induct s events (fun t => ∀ {user : User}, user ∈ t.users →
    user ∈ s.users ∨ ∃ event ∈ events, event.Creates user.login) (fun huser => .inl huser) ?_
  intro t event hevent operation hdoes ht user huser
  rcases (t.operate_change operation).mem_users huser with huser | ⟨passwordHash, rfl⟩
  · exact ht huser
  · exact .inr ⟨event, hevent, hdoes.creates⟩

end Loyalty.Store
