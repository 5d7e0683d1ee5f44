import Loyalty.Proofs.Ledger.Numbering
import Loyalty.Reconciliation.System

/-!
# What users do

Whatever a user does, one row is added to the store or none: a user with a
balance of nothing, a new order, or a withdrawal that is taken from the balance
of the user (`ClientMove.apply_effect`). No order that is there is changed
(`ClientMove.order?_apply`).
-/

namespace Loyalty.Reconciliation

/-- What a move of a user from `s` to `s'` does to the store. -/
inductive ClientEffect (s s' : Store) : Prop
  /-- The rows stay as they are. -/
  | stays (rows : s'.rows = s.rows)
  /-- A user comes, with a balance of nothing. -/
  | user (login passwordHash : String) (store : s' = s.addUser login passwordHash)
  /-- An order comes, of a number that no order has. -/
  | order (number : String) (user : Int) (now : Timestamp)
      (fresh : ∀ o ∈ s.orders, o.number ≠ number) (store : s' = s.addOrder number user now)
  /-- A withdrawal comes, of an amount that may be spent and that the balance
      covers. -/
  | withdrawal (number : String) (amount : Amount) (user : Int) (now : Timestamp)
      (b b' : Balance) (checked : amount.checkSpend = .ok ()) (balance : s.balance? user = some b)
      (debit : b.debit amount = (.ok (), b'))
      (store : s' = (s.addWithdrawal number amount user now).setBalance user b')

theorem register_effect (s : Store) (rounds : Nat) (salt : List UInt8) (login password : String) :
    ClientEffect s (s.register rounds salt login password).2 := by
  cases hc : Credentials.read login password with
  | error cause =>
    rw [Store.register, hc]
    exact .stays rfl
  | ok name =>
    rw [Store.register, hc]
    rcases s.createUser_spec name (Password.hash password salt rounds) with ⟨_, h⟩ | ⟨_, h⟩ <;>
      simp only [h]
    · exact .user name _ rfl
    · exact .stays rfl

theorem submit_effect (s : Store) (raw : String) (user : Int) (now : Timestamp) :
    ClientEffect s (s.submit raw user now).2 := by
  cases hn : OrderNumber.read raw with
  | error cause =>
    rw [Store.submit, hn]
    exact .stays rfl
  | ok number =>
    rw [Store.submit_snd hn]
    rcases s.createOrder_spec number user now with ⟨hfresh, h⟩ | ⟨_, h⟩ <;> rw [h]
    · exact .order number user now hfresh rfl
    · exact .stays rfl

theorem spend_effect (s : Store) (raw : String) (amount : Amount) (user : Int) (now : Timestamp) :
    ClientEffect s (s.spend raw amount user now).2 := by
  cases hn : OrderNumber.read raw with
  | error cause =>
    rw [Store.spend, hn]
    exact .stays rfl
  | ok number =>
    cases ha : amount.checkSpend with
    | error cause =>
      simp only [Store.spend, hn, ha]
      exact .stays rfl
    | ok u =>
      simp only [Store.spend, hn, ha]
      rcases s.withdraw_spec number amount user now with
        ⟨b, b', hb, hd, _, h⟩ | ⟨_, h⟩ | ⟨_, _, _, h⟩ <;> rw [h]
      · exact .withdrawal number amount user now b b' ha hb hd rfl
      · exact .stays rfl
      · exact .stays rfl

namespace ClientMove

variable {s : Store} {id : Int} {o : Order}

theorem apply_effect (s : Store) (move : ClientMove) : ClientEffect s (move.apply s) := by
  cases move with
  | register rounds salt login password => exact register_effect s rounds salt login password
  | submit raw user now => exact submit_effect s raw user now
  | spend raw amount user now => exact spend_effect s raw amount user now
  | failCredits count => exact .stays rfl
  | failMarks status count => exact .stays rfl

theorem numbered_apply (hs : s.Numbered) (move : ClientMove) : (move.apply s).Numbered := by
  cases move.apply_effect s with
  | stays rows => exact hs.of_rows rows
  | user login passwordHash store => exact store ▸ hs.addUser login passwordHash
  | order number user now fresh store => exact store ▸ hs.addOrder number user now
  | withdrawal number amount user now b b' checked balance debit store =>
    exact store ▸ (hs.addWithdrawal number amount user now).setBalance user b'

/-- Users make the orders of the store more, and change none of them. -/
theorem orders_apply (s : Store) (move : ClientMove) :
    (move.apply s).orders = s.orders ∨
      ∃ number user now, (move.apply s).orders = (s.addOrder number user now).orders := by
  cases move.apply_effect s with
  | stays rows => exact .inl (Store.orders_of_rows rows)
  | user login passwordHash store => exact .inl (by rw [store]; rfl)
  | order number user now fresh store => exact .inr ⟨number, user, now, by rw [store]⟩
  | withdrawal number amount user now b b' checked balance debit store =>
    exact .inl (by rw [store]; rfl)

theorem order?_apply (move : ClientMove) (ho : s.order? id = some o) :
    (move.apply s).order? id = some o := by
  rcases orders_apply s move with h | ⟨number, user, now, h⟩ <;> rw [Store.order?_congr h]
  · exact ho
  · rw [Store.order?_addOrder, ho, Option.some_or]

/-- An order that comes from a user is new. -/
theorem new_of_order?_apply (move : ClientMove) (hs : s.order? id = none)
    (ho : (move.apply s).order? id = some o) : o.status = .new ∧ o.accrual = none := by
  rcases orders_apply s move with h | ⟨number, user, now, h⟩ <;> rw [Store.order?_congr h] at ho
  · rw [hs] at ho
    cases ho
  · rw [Store.order?_addOrder, hs, Option.none_or] at ho
    rw [List.mem_singleton.1 (List.mem_of_find?_eq_some ho)]
    exact ⟨rfl, rfl⟩

end ClientMove

end Loyalty.Reconciliation
