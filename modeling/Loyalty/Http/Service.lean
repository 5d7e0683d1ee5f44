import Loyalty.Account.Access
import Loyalty.Http.MediaType
import Loyalty.Http.Message
import Loyalty.Json.Document
import Loyalty.Json.Write
import Loyalty.Ledger.Spending
import Loyalty.Ledger.Submission
import Loyalty.Session.Carrier
import Loyalty.Session.Token

/-!
# The endpoints

Each endpoint takes from a request what it needs — the user whose session it
is, then the body — and answers at once if that is not there. It then does one
thing to the store and answers with how that went. A request that a sum breaks
off gets no response.
-/

namespace Loyalty.Http

open Loyalty.Text

/-- What the service is set up with. -/
structure Service where
  keys : SessionKeys
  /-- the rounds for new passwords -/
  rounds : Nat
  /-- the most bytes of a body -/
  maxBody : Nat
  /-- the second at which the service began -/
  startedAt : Int

/-- What a request finds when it comes: the time, and a salt drawn for it. -/
structure Moment where
  time : Timestamp
  salt : List UInt8

/-- The response, if there is one, and the store that a request leaves. -/
abbrev Handled := Option Response × Store

/-! ## What a request brings -/

/-- The body that endpoints take is never larger than two mebibytes. -/
def bodyLimit : Nat := 2 * 1024 * 1024

/-- The body of a request, if it is not too large. -/
def Service.readBody (service : Service) (r : Request) : Except Response (List UInt8) :=
  let limit := min (min service.maxBody ((r.contentLength?).getD service.maxBody)) bodyLimit
  if r.body.length > limit then .error (.plain 413 "Failed to buffer the request body")
  else .ok r.body

/-- The body of a request as a text. -/
def Service.readText (service : Service) (r : Request) : Except Response String := do
  match ofBytes? (← service.readBody r) with
  | some text => .ok text
  | none => .error (.plain 400 "Request body didn't contain valid UTF-8")

/-- The JSON document in the body of a request; what follows it is not looked
    at. -/
def Service.readJson {α : Type} (service : Service) (r : Request) (read : Json.Reader α) :
    Except Response α := do
  if ((r.header? "content-type").map MediaType.isJson).getD false then
    match read (← service.readBody r) with
    | .ok (a, _) => .ok a
    | .error .mismatched =>
      .error (.plain 422 "Failed to deserialize the JSON body into the target type")
    | .error _ => .error (.plain 400 "Failed to parse the request body as JSON")
  else
    .error (.plain 415 "Expected request with `Content-Type: application/json`")

/-- The token that a request carries. -/
def tokenOf? (r : Request) : Option String :=
  Session.token? (r.header? "cookie") (r.header? "authorization")

/-- The user whose session a request belongs to. -/
def Service.user (service : Service) (m : Moment) (r : Request) : Except Response Int :=
  match tokenOf? r with
  | none => .error (.plain 401 "missing session token")
  | some token =>
    match service.keys.verify token m.time.seconds with
    | .ok user => .ok user
    | .error _ => .error (.plain 401 "invalid session token")

/-! ## What a client is told -/

/-- The status for a failure that a client is told about; nothing for one that
    it is not. -/
def statusOf? : Failure → Option Nat
  | .invalid _ => some 422
  | .orderOfAnotherUser _ | .loginTaken _ => some 409
  | .insufficientBalance .. => some 402
  | .withdrawalExists _ => some 400
  | .wrongCredentials | .session _ | .userNotFound _ => some 401
  | _ => none

/-- The response to a failure. -/
def refusal (f : Failure) : Response :=
  match statusOf? f with
  | some status => .plain status f.message
  | none => .plain 500 "internal server error"

/-- The response to a failure of registering or logging in, where an invalid
    input is told by its own words. -/
def credentialsRefusal : Failure → Response
  | .invalid cause => .plain 400 cause.message
  | f => refusal f

/-- The response to an outcome. -/
def respond {α : Type} (onOk : α → Response) (onFailure : Failure → Response) :
    Outcome α → Option Response
  | .ok a => some (onOk a)
  | .error (.failure f) => some (onFailure f)
  | .error .overflow => none

/-- A text as the value of a header, or the response that it cannot be one. -/
def headerValue (what value : String) : Except Response String :=
  match Request.printable? (bytes value) with
  | some value => .ok value
  | none =>
    .error (.plain 500 ("failed to build auth " ++ what ++ ": failed to parse header value"))

/-- The response that brings a user a token. -/
def Service.bringing (service : Service) (token : String) : Response :=
  let headers : Except Response (List (String × String)) := do
    let cookie ← headerValue "cookie" (Session.cookie token service.keys.lifetime)
    let bearer ← headerValue "header" (Session.bearer token)
    .ok [("set-cookie", cookie), ("authorization", bearer)]
  match headers with
  | .ok headers => ⟨200, headers, ""⟩
  | .error response => response

/-- The response to a user whose session begins. -/
def Service.welcome (service : Service) (m : Moment) (user : User) : Option Response :=
  respond service.bringing refusal (service.keys.tryIssue user.id m.time.seconds)

/-- The response to who registers or logs in. -/
def Service.greet (service : Service) (m : Moment) : Outcome User → Option Response
  | .ok user => service.welcome m user
  | .error (.failure f) => some (credentialsRefusal f)
  | .error .overflow => none

/-- A list of documents, or the response that there are none. -/
def listing (documents : List (List Char)) : Response :=
  if documents.isEmpty then .bare 204 else .json (Json.writeList documents)

/-! ## The endpoints -/

/-- Registers a user. -/
def Service.register (service : Service) (m : Moment) (r : Request) (s : Store) : Handled :=
  match service.readJson r Json.readCredentials with
  | .error response => (some response, s)
  | .ok c =>
    let (outcome, s) := s.register service.rounds m.salt c.login c.password
    (service.greet m outcome, s)

/-- Logs a user in. -/
def Service.login (service : Service) (m : Moment) (r : Request) (s : Store) : Handled :=
  match service.readJson r Json.readCredentials with
  | .error response => (some response, s)
  | .ok c =>
    (service.greet m (s.authenticate c.login c.password), s)

/-- Whether a body may be an order number: it may unless the request names
    another kind than text. -/
def isTextRequest (r : Request) : Bool :=
  match r.header? "content-type" with
  | some kind => (dropStart? "text/plain".toList kind.toList).isSome
  | none => true

/-- Submits an order. -/
def Service.submit (service : Service) (m : Moment) (r : Request) (s : Store) : Handled :=
  let taken : Except Response (Int × String) := do
    let user ← service.user m r
    let body ← service.readText r
    if !isTextRequest r then .error (.plain 400 "order number must be sent as text/plain")
    else if (trim body).isEmpty then .error (.plain 400 "order number is required")
    else .ok (user, body)
  match taken with
  | .error response => (some response, s)
  | .ok (user, number) =>
    let (outcome, s) := s.submit number user m.time
    let status : Submission → Nat
      | .created _ => 202
      | .known _ => 200
    (respond (fun submission => .bare (status submission)) refusal outcome, s)

/-- Lists the orders of a user. -/
def Service.orders (service : Service) (m : Moment) (r : Request) (s : Store) : Response :=
  match service.user m r with
  | .error response => response
  | .ok user => listing ((s.ordersOf user).map Json.orderView)

/-- Shows the balance of a user. -/
def Service.balance (service : Service) (m : Moment) (r : Request) (s : Store) : Response :=
  match service.user m r with
  | .error response => response
  | .ok user =>
    match s.balance? user with
    | some b => .json (Json.balanceView b)
    | none => refusal (.userNotFound (toString user))

/-- Spends points of a user. -/
def Service.withdraw (service : Service) (m : Moment) (r : Request) (s : Store) : Handled :=
  let taken : Except Response (Int × Json.SpendRequest) := do
    let user ← service.user m r
    let request ← service.readJson r Json.readSpend
    .ok (user, request)
  match taken with
  | .error response => (some response, s)
  | .ok (user, request) =>
    let (outcome, s) := s.spend request.order request.sum user m.time
    (respond (fun _ => .bare 200) refusal outcome, s)

/-- Lists the withdrawals of a user. -/
def Service.withdrawals (service : Service) (m : Moment) (r : Request) (s : Store) : Response :=
  match service.user m r with
  | .error response => response
  | .ok user => listing ((s.withdrawalsOf user).map Json.withdrawalView)

/-- Shows that the service is there. -/
def Service.health (service : Service) (m : Moment) : Response :=
  .json (Json.healthView "ok" (m.time.seconds - service.startedAt))

end Loyalty.Http
