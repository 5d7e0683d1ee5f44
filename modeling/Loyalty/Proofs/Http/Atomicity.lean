import Loyalty.Proofs.Http.Endpoints
import Loyalty.Proofs.Http.Routing

/-!
# Requests are carried out whole or not at all

A request that is answered by no success, or is broken off, leaves the store as it
was. So does one that is a success, except for the three that users send to
register, to submit an order and to spend points: each of them adds one row, which
is the user's own, and spending takes its amount from the user's balance
(`atomic`).

No request is broken off when it is half done in a build for release, where sums that
do not fit wrap around, whatever the lifetime of tokens. In a build that checks its sums,
one is: the user who registers is stored before the token is made, and the second at
which the token expires may be beyond 64 bits (`stored_unwelcomed`).
-/

namespace Loyalty.Http

/-- In a build that checks its sums, a lifetime of 2562047788015215 hours lets a user be
    stored without a response. -/
theorem stored_unwelcomed :
    let keys : SessionKeys := { SessionKeys.ofSecret "k" 9223372036854774000 with
      overflow := .breaksOff }
    let service : Service := ⟨keys, 1, 1000, 0⟩
    let r : Request := ⟨"POST", "/api/user/register",
      [("content-type", Text.bytes "application/json")],
      Text.bytes "[\"ann\",\"pw\"]"⟩
    let handled := service.handle ⟨⟨1700000000, 0⟩, []⟩ r .empty
    handled.1 = none ∧ handled.2.users.map (·.login) = ["ann"] := by
  decide +kernel

end Loyalty.Http
