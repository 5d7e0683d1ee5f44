import Loyalty.Http.Coding
import Loyalty.Http.Service

/-!
# From requests to endpoints

A request is for the endpoint of its path and its method. Before an endpoint
sees it, a request that announces too large a body is answered, and every
request with the method `OPTIONS` is. A path that has an endpoint for `GET`
takes `HEAD` too, and answers it without a body. The response to a method that
a path does not have names those that it has.
-/

namespace Loyalty.Http

/-- What a request can be for. -/
inductive Endpoint
  | register
  | login
  | submit
  | orders
  | balance
  | withdraw
  | withdrawals
  | health
  deriving DecidableEq, Repr

/-- The method of an endpoint. -/
def Endpoint.method : Endpoint → String
  | register | login | submit | withdraw => "POST"
  | orders | balance | withdrawals | health => "GET"

/-- The endpoints of every path. -/
def paths : List (String × List Endpoint) :=
  [("/api/user/register", [.register]),
   ("/api/user/login", [.login]),
   ("/api/user/orders", [.submit, .orders]),
   ("/api/user/balance", [.balance]),
   ("/api/user/balance/withdraw", [.withdraw]),
   ("/api/user/withdrawals", [.withdrawals]),
   ("/api/health", [.health])]

/-- The methods of a path, with commas between them. -/
def allowed (endpoints : List Endpoint) : String :=
  ",".intercalate (endpoints.flatMap fun e =>
    if e.method = "GET" then ["GET", "HEAD"] else [e.method])

/-- The endpoint for a method among those of a path. -/
def endpoint? (endpoints : List Endpoint) (method : String) : Option Endpoint :=
  endpoints.find? fun e => e.method = if method = "HEAD" then "GET" else method

/-- Sends a request to its endpoint. -/
def Service.run (service : Service) (m : Moment) (r : Request) (s : Store) : Endpoint → Handled
  | .register => service.register m r s
  | .login => service.login m r s
  | .submit => service.submit m r s
  | .orders => (some (service.orders m r s), s)
  | .balance => (some (service.balance m r s), s)
  | .withdraw => service.withdraw m r s
  | .withdrawals => (some (service.withdrawals m r s), s)
  | .health => (some (service.health m), s)

/-- The response to a request with the method `OPTIONS`. -/
def preflight : Response :=
  ⟨200,
    [("access-control-allow-origin", "*"), ("access-control-allow-methods", "*"),
     ("access-control-allow-headers", "*")], ""⟩

/-- Whether a request announces a body that is too large. -/
def Service.announcesTooMuch (service : Service) (r : Request) : Bool :=
  (r.contentLength?).any (· > service.maxBody)

/-- What stands around every endpoint, and around the answers of paths and
    methods without one. -/
def Service.guarded (service : Service) (r : Request) (s : Store) (inner : Handled) : Handled :=
  if r.method = "OPTIONS" then (some preflight, s)
  else
    let finish (response : Response) : Response :=
      (Coding.pack r response).withHeader "access-control-allow-origin" "*"
    if service.announcesTooMuch r then (some (finish (.plain 413 "length limit exceeded")), s)
    else (inner.1.map finish, inner.2)

/-- Handles a request. -/
def Service.handle (service : Service) (m : Moment) (r : Request) (s : Store) : Handled :=
  match paths.lookup r.path with
  | none => service.guarded r s (some (.bare 404), s)
  | some endpoints =>
    match endpoint? endpoints r.method with
    | none =>
      let (response, s) := service.guarded r s (some (.bare 405), s)
      (response.map (·.withHeader "allow" (allowed endpoints)), s)
    | some endpoint =>
      let (response, s) := service.guarded r s (service.run m r s endpoint)
      (response.map fun a => if r.method = "HEAD" then { a with body := "" } else a, s)

end Loyalty.Http
