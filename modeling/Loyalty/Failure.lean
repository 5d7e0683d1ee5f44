import Loyalty.Amount.Text
import Loyalty.Order.Status
import Loyalty.Time.Span

/-!
# Failures

Every way in which an operation of the ledger can fail is a constructor here,
and `message` gives its wording. An addition that does not fit, of amounts into
96 bits or of seconds into 64, is no failure that an operation reports: it breaks
the operation off (`Stop.overflow`).
-/

namespace Loyalty

/-- What is wrong with an input. -/
inductive Invalid
  | numberEmpty
  | numberLong (bytes : Nat)
  | numberUnchecked (number : String)
  | amountNotPositive (amount : Amount)
  | amountTooFine (amount : Amount)
  | creditNegative (amount : Amount)
  | loginEmpty
  | loginLong
  | passwordEmpty
  /-- any other complaint, in the words of whoever found it -/
  | stated (text : String)
  deriving DecidableEq

/-- Why a session token is refused. -/
inductive TokenFault
  | malformed
  | malformedSignature
  | wrongSignature
  | expired
  /-- any other complaint, in the words of whoever found it -/
  | stated (text : String)
  deriving DecidableEq

/-- What is at fault on the ledger's own side. -/
inductive InternalFault
  /-- a scripted failure of a status update -/
  | markRefused (order : Int) (status : OrderStatus)
  /-- a scripted failure of a credit -/
  | creditRefused (order : Int)
  | passwordHashMalformed
  | passwordSchemeUnknown (scheme : String)
  | passwordSaltMalformed
  | passwordDigestMalformed
  | statusUnknown (name : String)
  | queueClosed
  /-- any other fault, in the words of whoever found it -/
  | stated (text : String)
  deriving DecidableEq

/-- How the authority fails to resolve an order. -/
inductive AuthorityFailure
  | notRegistered
  | rateLimited (retryAfter : Span)
  | unavailable (reason : String)
  | unexpectedResponse (status : Nat) (detail : String)
  deriving DecidableEq

/-- Why an operation fails. -/
inductive Failure
  | authority (cause : AuthorityFailure)
  | orderExists (number : String)
  | orderOfAnotherUser (number : String)
  | orderNotFound (key : String)
  | statusNotSettable (status : OrderStatus)
  | insufficientBalance (requested available : Amount)
  | withdrawalExists (number : String)
  | userNotFound (key : String)
  | loginTaken (login : String)
  | wrongCredentials
  | invalid (cause : Invalid)
  | session (cause : TokenFault)
  | inputOutput (text : String)
  | internal (cause : InternalFault)
  | cancelled
  /-- any other failure, in the words of whoever found it -/
  | stated (text : String)
  deriving DecidableEq

/-- What ends an operation before it is done. -/
inductive Stop
  /-- the operation reports a failure -/
  | failure (f : Failure)
  /-- an addition overflows -/
  | overflow
  deriving DecidableEq

/-- The result of an operation, if it is done. -/
abbrev Outcome (α : Type) := Except Stop α

/-- An operation that reports a failure. -/
abbrev fails {α : Type} (f : Failure) : Outcome α := .error (.failure f)

/-! ## Wording -/

/-- The wording of a complaint about an input. -/
def Invalid.message : Invalid → String
  | numberEmpty => "Order number cannot be empty"
  | numberLong bytes =>
    "Order number is too long: " ++ toString bytes ++ " digits (maximum: 64)"
  | numberUnchecked number => "Order number failed the Luhn check: " ++ number
  | amountNotPositive amount => "Amount must be positive: " ++ amount.text
  | amountTooFine amount => "Amount has more than 2 decimal places: " ++ amount.text
  | creditNegative amount => "Credit cannot be negative: " ++ amount.text
  | loginEmpty => "Login cannot be empty"
  | loginLong => "Login is too long (maximum: 128)"
  | passwordEmpty => "Password cannot be empty"
  | stated text => text

/-- The wording of a complaint about a token. -/
def TokenFault.message : TokenFault → String
  | malformed => "malformed token"
  | malformedSignature => "malformed token signature"
  | wrongSignature => "invalid token signature"
  | expired => "token expired"
  | stated text => text

/-- The wording of a fault of the ledger. -/
def InternalFault.message : InternalFault → String
  | markRefused order status =>
    "injected failure setting order " ++ toString order ++ " to " ++ status.text
  | creditRefused order => "injected failure crediting order " ++ toString order
  | passwordHashMalformed => "malformed password hash"
  | passwordSchemeUnknown scheme => "unsupported password scheme: " ++ scheme
  | passwordSaltMalformed => "malformed password salt"
  | passwordDigestMalformed => "malformed password digest"
  | statusUnknown name => "unknown order status in store: " ++ name
  | queueClosed => "work queue closed while dispatching"
  | stated text => text

/-- The wording of a failure of the authority. -/
def AuthorityFailure.message : AuthorityFailure → String
  | notRegistered => "Order is not registered in the accrual system"
  | rateLimited retryAfter =>
    "Accrual system rate limited the request, retry after " ++ retryAfter.text
  | unavailable reason => "Accrual system not available: " ++ reason
  | unexpectedResponse status detail =>
    "Accrual system acting unexpectedly (status " ++ toString status ++ "): " ++ detail

/-- Whether the order may still be resolved later. -/
def AuthorityFailure.isTransient : AuthorityFailure → Bool
  | notRegistered => false
  | _ => true

namespace Failure

/-- The wording of a failure. -/
def message : Failure → String
  | authority cause => "Accrual authority error: " ++ cause.message
  | orderExists number => "Order number already exists: " ++ number
  | orderOfAnotherUser number => "Order " ++ number ++ " is already registered by another user"
  | orderNotFound key => "Order not found: " ++ key
  | statusNotSettable status =>
    "Status " ++ status.text ++ " cannot be set directly, use the processed-and-credit path"
  | insufficientBalance requested available =>
    "Insufficient balance: requested " ++ requested.text ++ ", available " ++ available.text
  | withdrawalExists number => "Withdrawal order number already used: " ++ number
  | userNotFound key => "User not found: " ++ key
  | loginTaken login => "Login already taken: " ++ login
  | wrongCredentials => "Invalid login or password"
  | invalid cause => "Validation failed: " ++ cause.message
  | session cause => "Authentication error: " ++ cause.message
  | inputOutput text => "IO error: " ++ text
  | internal cause => "Internal error: " ++ cause.message
  | cancelled => "Operation cancelled"
  | stated text => text

/-- Whether a failure is a refusal of what was asked, and no fault. -/
def isRejection : Failure → Bool
  | orderOfAnotherUser _ | insufficientBalance .. | withdrawalExists _ | loginTaken _
  | wrongCredentials | invalid _ => true
  | _ => false

end Failure
end Loyalty
