import Loyalty.Ledger.Balance
import Loyalty.Ledger.Record

/-!
# The store

The store keeps orders, withdrawals and users in the order in which they came,
each numbered from one, and a balance for every user. An operation answers
with an outcome and the store it leaves behind. An operation that fails or
overflows changes none of what is kept; `mark` and `credit` can be told to
fail (`Faults`), and then count down how often they still will.

An order becomes processed by `credit` alone, together with the balance of its
user: `mark` refuses that status.
-/

namespace Loyalty

/-- The status that an order is to be given by `mark`, if it may be. -/
def OrderStatus.checkMark (status : OrderStatus) : Except Failure OrderStatus :=
  if status = .processed then .error (.statusNotSettable status) else .ok status

/-- How often operations are still told to fail. -/
structure Faults where
  credits : Nat
  marks : OrderStatus → Nat

/-- Nothing is told to fail. -/
def Faults.none : Faults := ⟨0, fun _ => 0⟩

instance : Inhabited Faults := ⟨Faults.none⟩

/-- Everything that the ledger keeps. -/
structure Store where
  orders : List Order
  withdrawals : List Withdrawal
  users : List User
  lastOrder : Int
  lastWithdrawal : Int
  lastUser : Int
  balances : List (Int × Balance)
  faults : Faults
  deriving Inhabited

namespace Store

/-- Nothing is kept yet. -/
def empty : Store := ⟨[], [], [], 0, 0, 0, [], .none⟩

/-! ## Looking up -/

/-- The order of that number. -/
def findOrder? (s : Store) (number : String) : Option Order :=
  s.orders.find? (·.number = number)

/-- The user of that login. -/
def findUser? (s : Store) (login : String) : Option User :=
  s.users.find? (·.login = login)

/-- The orders of a user, the newest first. -/
def ordersOf (s : Store) (user : Int) : List Order :=
  (s.orders.filter (·.user = user)).mergeSort Order.precedes

/-- The orders of a status, the oldest first. -/
def ordersIn (s : Store) (status : OrderStatus) : List Order :=
  s.orders.filter (·.status = status)

/-- The withdrawals of a user, the oldest first. -/
def withdrawalsOf (s : Store) (user : Int) : List Withdrawal :=
  s.withdrawals.filter (·.user = user)

/-- The balance of a user. -/
def balance? (s : Store) (user : Int) : Option Balance := s.balances.lookup user

/-- The balance of a user, or the failure that there is none. -/
def balance (s : Store) (user : Int) : Outcome Balance :=
  match s.balance? user with
  | some b => .ok b
  | none => fails (.userNotFound (toString user))

/-! ## Adding -/

/-- Adds a user with nothing to spend. -/
def createUser (s : Store) (login passwordHash : String) : Outcome User × Store :=
  if s.users.any (·.login = login) then (fails (.loginTaken login), s)
  else
    let id := s.lastUser + 1
    let user : User := { id, login, passwordHash }
    (.ok user,
      { s with
        users := s.users ++ [user], lastUser := id
        balances := s.balances ++ [(id, .zero)] })

/-- Adds a new order. -/
def createOrder (s : Store) (number : String) (user : Int) (now : Timestamp) :
    Outcome Order × Store :=
  if s.orders.any (·.number = number) then (fails (.orderExists number), s)
  else
    let id := s.lastOrder + 1
    let order : Order :=
      { id, user, number, status := .new, accrual := none, createdAt := now }
    (.ok order, { s with orders := s.orders ++ [order], lastOrder := id })

/-! ## Changing -/

/-- The store with one order replaced. -/
def updateOrder (s : Store) (id : Int) (f : Order → Order) : Store :=
  { s with orders := s.orders.map fun o => if o.id = id then f o else o }

/-- The store with the balance of one user replaced. -/
def setBalance (s : Store) (user : Int) (b : Balance) : Store :=
  { s with balances := s.balances.map fun row => if row.1 = user then (user, b) else row }

/-- The store after one failure of `mark` that was told. -/
def dropMarkFault (s : Store) (status : OrderStatus) : Store :=
  { s with
    faults := { s.faults with
      marks := fun t => if t = status then s.faults.marks t - 1 else s.faults.marks t } }

/-- The store after one failure of `credit` that was told. -/
def dropCreditFault (s : Store) : Store :=
  { s with faults := { s.faults with credits := s.faults.credits - 1 } }

/-- Gives an order another status, except that of a processed one. -/
def mark (s : Store) (id : Int) (status : OrderStatus) : Outcome Unit × Store :=
  match status.checkMark with
  | .error f => (fails f, s)
  | .ok status =>
    if s.faults.marks status > 0 then
      (fails (.internal (.markRefused id status)), s.dropMarkFault status)
    else if s.orders.any (·.id = id) then
      (.ok (), s.updateOrder id fun o => { o with status })
    else (fails (.orderNotFound (toString id)), s)

/-- Makes an order processed and credits its user. The user is the one that the
    order names as it is passed; of the stored order only the number counts. -/
def credit (s : Store) (order : Order) (amount : Amount) : Outcome Unit × Store :=
  if s.faults.credits > 0 then
    (fails (.internal (.creditRefused order.id)), s.dropCreditFault)
  else
    match s.balance? order.user with
    | none => (fails (.userNotFound (toString order.user)), s)
    | some b =>
      if s.orders.any (·.id = order.id) then
        match b.credit amount with
        | .error e => (.error e, s)
        | .ok b =>
          (.ok (),
            (s.updateOrder order.id fun o =>
              { o with status := .processed, accrual := some amount }).setBalance order.user b)
      else (fails (.orderNotFound (toString order.id)), s)

/-- Spends points of a user on an order elsewhere. -/
def withdraw (s : Store) (number : String) (amount : Amount) (user : Int) (now : Timestamp) :
    Outcome Int × Store :=
  match s.balance? user with
  | none => (fails (.userNotFound (toString user)), s)
  | some b =>
    match b.debit amount with
    | (.error e, _) => (.error e, s)
    | (.ok (), b) =>
      if s.withdrawals.any (·.number = number) then (fails (.withdrawalExists number), s)
      else
        let id := s.lastWithdrawal + 1
        let withdrawal : Withdrawal := { id, user, number, amount, createdAt := now }
        let s :=
          { s with withdrawals := s.withdrawals ++ [withdrawal], lastWithdrawal := id }
        (.ok id, s.setBalance user b)

/-! ## Scripted failures -/

/-- Tells the next credits to fail. -/
def failCredits (s : Store) (count : Nat) : Store :=
  { s with faults := { s.faults with credits := count } }

/-- Tells the next updates to a status to fail. -/
def failMarks (s : Store) (status : OrderStatus) (count : Nat) : Store :=
  { s with
    faults := { s.faults with
      marks := fun t => if t = status then count else s.faults.marks t } }

end Store
end Loyalty
