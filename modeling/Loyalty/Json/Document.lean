import Loyalty.Amount.Text
import Loyalty.Authority.Resolution
import Loyalty.Double.Text
import Loyalty.Json.Reader
import Loyalty.Ledger.Balance
import Loyalty.Ledger.Record

/-!
# The documents that are read

Resolutions of the authority, the requests of users, and the records of the
ledger itself. An amount is read from a number or from a text: a number that is
no integer of 64 bits is a double, and stands for the amount that its plain
text names.
-/

namespace Loyalty.Json

open Loyalty.Text

/-- The amount of a number. -/
def amountOf? : Number → Option Amount
  | .whole n => Amount.parsePlain? (integerChars n)
  | .real x => Amount.parsePlain? x.plainChars

/-- An amount, or the fault that there is none. -/
def orMismatched {α : Type} : Option α → Except ReadFault α
  | some a => .ok a
  | none => .error .mismatched

/-- Reads an amount. -/
def readAmount : Reader Amount := fun bs =>
  match skipBlanks bs with
  | [] => .error .truncated
  | b :: rest =>
    if b = byte '"' then do
      let (text, rest) ← stringText rest
      return (← orMismatched (Amount.parse? text.toList), rest)
    else if b = byte '-' then do
      let (n, rest) ← number true rest
      return (← orMismatched (amountOf? n), rest)
    else if isDigit b then do
      let (n, rest) ← number false (b :: rest)
      return (← orMismatched (amountOf? n), rest)
    else .error (wrongKind (b :: rest))

/-- Reads a point in time. -/
def readTimestamp : Reader Timestamp := fun bs => do
  let (text, rest) ← readText bs
  return (← orMismatched (Timestamp.parse? text.toList), rest)

/-- Reads the status of an order. -/
def readStatus : Reader OrderStatus := readName OrderStatus.ofText?

/-- A member that must be there. -/
def Member.required {σ α : Type} (name : String) (get : σ → Option α) (read : Reader α)
    (set : α → σ → σ) : Member σ where
  name
  isSet draft := (get draft).isSome
  read bs := do
    let (a, rest) ← read bs
    return (set a, rest)
  leftOut := none
  leftOutInLists := false

/-! ## Resolutions -/

/-- A resolution as far as it is read. -/
structure ResolutionDraft where
  order : Option String
  status : Option ResolutionStatus
  accrual : Option (Option Amount)

/-- The members of a resolution; the accrual may be left out. -/
def resolutionMembers : List (Member ResolutionDraft) :=
  [.required "order" (·.order) readText fun a d => { d with order := some a },
   .required "status" (·.status)
     (fun bs => do
       let (name, rest) ← readText bs
       return (ResolutionStatus.ofText name, rest))
     fun a d => { d with status := some a },
   { Member.required "accrual" (·.accrual) (readOption readAmount)
       fun a d => { d with accrual := some a } with
     leftOut := some fun d => { d with accrual := some none }
     leftOutInLists := true }]

/-- Reads a resolution. -/
def readResolution : Reader Resolution := fun bs => do
  match ← readRecord resolutionMembers ⟨none, none, none⟩ bs with
  | (⟨some order, some status, some accrual⟩, rest) => .ok (⟨order, status, accrual⟩, rest)
  | _ => .error .mismatched

/-! ## Requests -/

/-- What a user sends to register or to log in. -/
structure CredentialsRequest where
  login : String
  password : String
  deriving DecidableEq

/-- What a user sends to spend points. -/
structure SpendRequest where
  order : String
  sum : Amount
  deriving DecidableEq

/-- Reads a login and a password. -/
def readCredentials : Reader CredentialsRequest := fun bs => do
  let members : List (Member (Option String × Option String)) :=
    [.required "login" (·.1) readText fun a d => (some a, d.2),
     .required "password" (·.2) readText fun a d => (d.1, some a)]
  match ← readRecord members (none, none) bs with
  | ((some login, some password), rest) => .ok (⟨login, password⟩, rest)
  | _ => .error .mismatched

/-- Reads a request to spend points. -/
def readSpend : Reader SpendRequest := fun bs => do
  let members : List (Member (Option String × Option Amount)) :=
    [.required "order" (·.1) readText fun a d => (some a, d.2),
     .required "sum" (·.2) readAmount fun a d => (d.1, some a)]
  match ← readRecord members (none, none) bs with
  | ((some order, some sum), rest) => .ok (⟨order, sum⟩, rest)
  | _ => .error .mismatched

/-! ## Records -/

/-- Reads a balance. -/
def readBalance : Reader Balance := fun bs => do
  let members : List (Member (Option Amount × Option Amount)) :=
    [.required "current" (·.1) readAmount fun a d => (some a, d.2),
     .required "withdrawn" (·.2) readAmount fun a d => (d.1, some a)]
  match ← readRecord members (none, none) bs with
  | ((some current, some withdrawn), rest) => .ok (⟨current, withdrawn⟩, rest)
  | _ => .error .mismatched

/-- An order as far as it is read. -/
structure OrderDraft where
  id : Option Int
  user : Option Int
  number : Option String
  status : Option OrderStatus
  accrual : Option (Option Amount)
  createdAt : Option Timestamp

/-- The members of an order; the accrual may be left out of an object. -/
def orderMembers : List (Member OrderDraft) :=
  [.required "id" (·.id) readInteger fun a d => { d with id := some a },
   .required "user_id" (·.user) readInteger fun a d => { d with user := some a },
   .required "number" (·.number) readText fun a d => { d with number := some a },
   .required "status" (·.status) readStatus fun a d => { d with status := some a },
   { Member.required "accrual" (·.accrual) (readOption readAmount)
       fun a d => { d with accrual := some a } with
     leftOut := some fun d => { d with accrual := some none } },
   .required "created_at" (·.createdAt) readTimestamp fun a d => { d with createdAt := some a }]

/-- Reads an order. -/
def readOrder : Reader Order := fun bs => do
  match ← readRecord orderMembers ⟨none, none, none, none, none, none⟩ bs with
  | (⟨some id, some user, some number, some status, some accrual, some createdAt⟩, rest) =>
    .ok (⟨id, user, number, status, accrual, createdAt⟩, rest)
  | _ => .error .mismatched

/-- A withdrawal as far as it is read. -/
structure WithdrawalDraft where
  id : Option Int
  user : Option Int
  number : Option String
  amount : Option Amount
  createdAt : Option Timestamp

/-- The members of a withdrawal. -/
def withdrawalMembers : List (Member WithdrawalDraft) :=
  [.required "id" (·.id) readInteger fun a d => { d with id := some a },
   .required "user_id" (·.user) readInteger fun a d => { d with user := some a },
   .required "order_number" (·.number) readText fun a d => { d with number := some a },
   .required "amount" (·.amount) readAmount fun a d => { d with amount := some a },
   .required "created_at" (·.createdAt) readTimestamp fun a d => { d with createdAt := some a }]

/-- Reads a withdrawal. -/
def readWithdrawal : Reader Withdrawal := fun bs => do
  match ← readRecord withdrawalMembers ⟨none, none, none, none, none⟩ bs with
  | (⟨some id, some user, some number, some amount, some createdAt⟩, rest) =>
    .ok (⟨id, user, number, amount, createdAt⟩, rest)
  | _ => .error .mismatched

end Loyalty.Json
