import Loyalty.Proofs.Ledger.Numbering
import Mathlib.Logic.Relation

/-!
# What services make of a store

Whatever users and the reconciliation do, they do by operations of the store, one after
another. Which ones a deed can do is told by `Deed.Does`, and that it does no others by
`perform_steps`: what such operations keep, the deed keeps.

For most purposes it is enough that withdrawals are of amounts that may be spent
(`Store.Served`, `performAll_served`), and that a store to which deeds lead is reachable
(`reachable_performAll`).
-/

namespace Loyalty

namespace Store

open Relation

variable {s s' : Store} {deed : Deed} {operation : Operation}

/-! ## Deeds -/

/-- The operations that a deed is made of. -/
inductive Deed.Does : Deed → Operation → Prop
  | register {rounds : Nat} {salt : List UInt8} {login password name : String}
      (read : Credentials.read login password = .ok name) :
    Does (.register rounds salt login password)
      (.createUser name (Password.hash password salt rounds))
  | submit {raw number : String} (user : Int) (now : Timestamp)
      (read : OrderNumber.read raw = .ok number) :
    Does (.submit raw user now) (.createOrder number user now)
  | spend {raw number : String} {amount : Amount} (user : Int) (now : Timestamp)
      (read : OrderNumber.read raw = .ok number) (check : amount.checkSpend = .ok ()) :
    Does (.spend raw amount user now) (.withdraw number amount user now)
  | claim (order : Order) : Does (.claim order) (.mark order.id .processing)
  | release (order : Order) : Does (.release order) (.mark order.id .new)
  | credit (order : Order) {reply : Reply} {points : Amount}
      (asks : Settlement.ofReply reply = .credit points) :
    Does (.settle order reply) (.credit order points)
  | refuse (order : Order) {reply : Reply} (asks : Settlement.ofReply reply = .refuse) :
    Does (.settle order reply) (.mark order.id .invalid)
  | giveBack (order : Order) (reply : Reply) : Does (.settle order reply) (.mark order.id .new)
  | releaseInFlight (order : Order) : Does .releaseInFlight (.mark order.id .new)
  | failCredits (count : Nat) : Does (.failCredits count) (.failCredits count)
  | failMarks (status : OrderStatus) (count : Nat) :
    Does (.failMarks status count) (.failMarks status count)

/-- A deed does one of its operations. -/
def Deed.Step (deed : Deed) (s s' : Store) : Prop :=
  ∃ operation, deed.Does operation ∧ s.operate operation = s'

theorem Deed.Does.step (h : deed.Does operation) (s : Store) :
    ReflTransGen deed.Step s (s.operate operation) :=
  .single ⟨operation, h, rfl⟩

/-- An order is never given back without a failure to report. -/
theorem revert_spec (s : Store) (order : Order) (failure : Failure) :
    ∃ f, s.revert order failure = (fails f, (s.release order).2) := by
  rw [revert, release]
  rcases s.mark_spec order.id .new with ⟨h, -, -⟩ | ⟨f, t, h, -⟩ <;> rw [h]
  · exact ⟨failure, rfl⟩
  · exact ⟨f, rfl⟩

/-- Settling is one write, which may be followed by making the order new. -/
theorem settle_snd (s : Store) (order : Order) (reply : Reply) :
    (s.settle order reply).2 = (s.write order (.ofReply reply)).2 ∨
      (s.settle order reply).2 = ((s.write order (.ofReply reply)).2.release order).2 := by
  rw [settle]
  rcases s.write order (.ofReply reply) with ⟨_ | _, t⟩
  case ok => exact .inl rfl
  case error e =>
    rcases e with f | _
    · dsimp only
      split_ifs
      · exact .inl rfl
      · obtain ⟨g, hrevert⟩ := t.revert_spec order f
        rw [hrevert]
        exact .inr rfl
    · exact .inl rfl

theorem settle_steps (s : Store) (order : Order) (reply : Reply) :
    ReflTransGen (Deed.settle order reply).Step s (s.settle order reply).2 := by
  have hwrite : ReflTransGen (Deed.settle order reply).Step s
      (s.write order (.ofReply reply)).2 := by
    cases hasks : Settlement.ofReply reply with
    | credit points => exact (Deed.Does.credit order hasks).step s
    | refuse => exact (Deed.Does.refuse order hasks).step s
    | giveBack => exact (Deed.Does.giveBack order reply).step s
  rcases s.settle_snd order reply with h | h <;> rw [h]
  · exact hwrite
  · exact hwrite.trans ((Deed.Does.giveBack order reply).step _)

theorem releaseAll_steps (orders : List Order) (s : Store) :
    ReflTransGen Deed.releaseInFlight.Step s (s.releaseAll orders).2 := by
  induction orders generalizing s with
  | nil => exact .refl
  | cons order orders ih =>
    have hfirst := (Deed.Does.releaseInFlight order).step s
    rw [releaseAll]
    rw [operate] at hfirst
    rcases hrelease : s.release order with ⟨_ | _, t⟩ <;> rw [release] at hrelease <;>
      rw [hrelease] at hfirst
    case error e => exact hfirst
    case ok u => exact hfirst.trans (ih t)

/-- A deed does nothing but its operations. -/
theorem perform_steps (s : Store) (deed : Deed) : ReflTransGen deed.Step s (s.perform deed) := by
  cases deed with
  | register rounds salt login password =>
    rw [perform, register]
    cases hread : Credentials.read login password with
    | error cause => exact .refl
    | ok name => exact (Deed.Does.register hread).step s
  | submit raw user now =>
    rw [perform]
    cases hread : OrderNumber.read raw with
    | error cause => rw [submit, hread]
    | ok number =>
      rw [submit_snd hread]
      exact (Deed.Does.submit user now hread).step s
  | spend raw amount user now =>
    rw [perform, spend]
    cases hread : OrderNumber.read raw with
    | error cause => exact .refl
    | ok number =>
      cases hcheck : amount.checkSpend with
      | error cause => exact .refl
      | ok u => exact (Deed.Does.spend user now hread hcheck).step s
  | claim order => exact (Deed.Does.claim order).step s
  | release order => exact (Deed.Does.release order).step s
  | settle order reply => exact settle_steps s order reply
  | releaseInFlight =>
    have hall : s.releaseInFlight.2 = (s.releaseAll (s.ordersIn .processing)).2 := by
      rw [releaseInFlight]
      split <;> simp [*]
    rw [perform, hall]
    exact releaseAll_steps _ s
  | failCredits count => exact (Deed.Does.failCredits count).step s
  | failMarks status count => exact (Deed.Does.failMarks status count).step s

/-! ## Withdrawals that are checked -/

/-- A withdrawal is of an amount that may be spent. -/
def Operation.Checked : Operation → Prop
  | .withdraw _ amount _ _ => amount.checkSpend = .ok ()
  | _ => True

/-- A service does one operation. -/
def Served (s s' : Store) : Prop :=
  ∃ operation : Operation, operation.Checked ∧ s.operate operation = s'

theorem Reachable.served (hs : s.Reachable) (h : ReflTransGen Served s s') : s'.Reachable := by
  induction h with
  | refl => exact hs
  | tail _ hlast ih =>
    obtain ⟨operation, -, rfl⟩ := hlast
    exact ih.operate operation

theorem Deed.Does.checked (h : deed.Does operation) : operation.Checked := by
  cases h with
  | spend user now read check => exact check
  | _ => trivial

theorem perform_served (s : Store) (deed : Deed) : ReflTransGen Served s (s.perform deed) := by
  have hle : deed.Step ≤ Served := by
    rintro t t' ⟨operation, hdoes, ht⟩
    exact ⟨operation, hdoes.checked, ht⟩
  exact ReflTransGen.mono hle _ _ (perform_steps s deed)

theorem performAll_served (s : Store) (deeds : List Deed) :
    ReflTransGen Served s (s.performAll deeds) := by
  induction deeds generalizing s with
  | nil => exact .refl
  | cons deed deeds ih => exact (perform_served s deed).trans (ih (s.perform deed))

/-- Deeds lead to reachable stores only. -/
theorem reachable_performAll (deeds : List Deed) : (empty.performAll deeds).Reachable :=
  reachable_empty.served (performAll_served empty deeds)

end Store
end Loyalty
