import Loyalty.Proofs.Http.Endpoints
import Loyalty.Proofs.Http.Routing
import Loyalty.Proofs.Ledger.Balances
import Loyalty.Proofs.Ledger.Numbering
import Loyalty.Proofs.Session.Tokens

/-!
# Users see and change what is theirs

Requests for what belongs to users (`ownPaths`) need a session. Without a token
that is good, nothing is told and nothing done; with the token of a user, all that
is told and done is the user's own (`isolated`). So whatever requests come, what
belongs to a user stays as it is as long as none of them has a session of that
user.
-/

namespace Loyalty

namespace Store

variable {s s' t : Store} {u user : Int}

/-- What belongs to a user, as the user is shown it. -/
structure Belongings where
  balance : Option Balance
  orders : List Order
  withdrawals : List Withdrawal

/-- What belongs to a user. -/
def belongings (s : Store) (user : Int) : Belongings :=
  ⟨s.balance? user, s.ordersOf user, s.withdrawalsOf user⟩

/-- All rows of `s` are rows of `s'` but for the balance of the user, and those
    that come are the user's. -/
structure Touches (user : Int) (s s' : Store) : Prop where
  users : s'.users = s.users
  orders : ∃ added, s'.orders = s.orders ++ added ∧ ∀ o ∈ added, o.user = user
  withdrawals : ∃ added, s'.withdrawals = s.withdrawals ++ added ∧ ∀ w ∈ added, w.user = user
  balances : s'.balances = s.balances ∨ ∃ b, s'.balances = (s.setBalance user b).balances

theorem Touches.refl (user : Int) (s : Store) : s.Touches user s :=
  ⟨rfl, ⟨[], by simp⟩, ⟨[], by simp⟩, .inl rfl⟩

theorem touches_addOrder (s : Store) (number : String) (user : Int) (now : Timestamp) :
    s.Touches user (s.addOrder number user now) :=
  { Touches.refl user s with orders := ⟨_, rfl, by simp⟩ }

theorem touches_withdrawal (s : Store) (number : String) (amount : Amount) (user : Int)
    (now : Timestamp) (b : Balance) :
    s.Touches user ((s.addWithdrawal number amount user now).setBalance user b) :=
  { Touches.refl user s with withdrawals := ⟨_, rfl, by simp⟩, balances := .inr ⟨b, rfl⟩ }

/-- What belongs to one user is not touched with what belongs to another. -/
theorem Touches.belongings (h : s.Touches u s') (huser : user ≠ u) :
    s'.belongings user = s.belongings user := by
  obtain ⟨-, ⟨orders, horders, howner⟩, ⟨withdrawals, hwithdrawals, hspender⟩, hbalances⟩ := h
  have hbalance : s'.balance? user = s.balance? user := by
    rcases hbalances with hsame | ⟨b, hset⟩
    · rw [balance?, balance?, hsame]
    · rw [balance?, hset, ← balance?, balance?_setBalance_of_ne huser]
  have hnone {α : Type} {owner : α → Int} {added : List α} (h : ∀ a ∈ added, owner a = u) :
      added.filter (fun a => owner a = user) = [] :=
    List.filter_eq_nil_iff.2 fun a ha => by simpa [h a ha] using huser.symm
  rw [Store.belongings, Store.belongings, hbalance, ordersOf, ordersOf, horders, List.filter_append,
    hnone howner, List.append_nil, withdrawalsOf, withdrawalsOf, hwithdrawals, List.filter_append,
    hnone hspender, List.append_nil]

/-- A user who registers touches nothing of those who are registered. -/
theorem belongings_addUser (hu : (s.balance? u).isSome) (login passwordHash : String) :
    (s.addUser login passwordHash).belongings u = s.belongings u := by
  obtain ⟨b, hb⟩ := Option.isSome_iff_exists.1 hu
  have hbalance : (s.addUser login passwordHash).balance? u = s.balance? u := by
    rw [balance?] at hb
    rw [balance?, balance?, addUser, List.lookup_append, hb, Option.some_or]
  rw [belongings, belongings, hbalance]
  rfl

end Store

namespace Http

variable {service : Service} {m : Moment} {r : Request} {s t : Store} {user : Int} {e : Endpoint}

/-! ## Sessions -/

/-- The request presents a token: in the cookie, or, where there is no such
    cookie, as a bearer token. -/
def Presents (r : Request) (token : String) : Prop :=
  let cookie := (r.header? "cookie").bind (Session.cookieValue? Session.cookieName)
  cookie = some token ∨
    cookie = none ∧ (r.header? "authorization").bind Session.bearerToken? = some token

/-- The request presents a good token of the user. -/
def Service.Admits (service : Service) (m : Moment) (r : Request) (user : Int) : Prop :=
  ∃ token, Presents r token ∧ service.keys.verify token m.time.seconds = .ok user

theorem presents_iff {token : String} : Presents r token ↔ tokenOf? r = some token := by
  rw [Presents, tokenOf?, Session.token?]
  cases (r.header? "cookie").bind (Session.cookieValue? Session.cookieName) <;> simp

theorem admits_iff : service.Admits m r user ↔ service.user m r = .ok user := by
  simp only [Service.Admits, presents_iff, Service.user]
  cases tokenOf? r with
  | none => simp
  | some token => cases hverify : service.keys.verify token m.time.seconds <;> simp [hverify]

/-- A request has a session of one user at most. -/
theorem Service.Admits.unique (h : service.Admits m r user) {other : Int}
    (hother : service.Admits m r other) : other = user := by
  rw [admits_iff] at h hother
  exact Except.ok.inj (hother.symm.trans h)

/-- A request with one header has a session of the user whose token is in it, if the
    token was issued and has not expired. -/
theorem Service.admits_issued (huser : Text.int64Min ≤ user ∧ user ≤ Text.int64Max) {now : Int}
    (hheaders : r.headers =
      [("authorization", Text.bytes (Session.bearer (service.keys.issue user now)))])
    (htime : m.time.seconds < service.keys.expiry now) : service.Admits m r user := by
  have hcookie : r.header? "cookie" = none := by
    simp [Request.header?, Request.headerValues, hheaders]
  have hbearer : r.header? "authorization" =
      Request.printable? (Text.bytes (Session.bearer (service.keys.issue user now))) := by
    simp [Request.header?, Request.headerValues, hheaders]
  refine ⟨service.keys.issue user now, .inr ⟨by rw [hcookie]; rfl, ?_⟩, ?_⟩
  · rw [hbearer, SessionKeys.bearerToken?_issue]
  · rw [SessionKeys.verify_issue service.keys huser, if_neg (not_le.2 htime)]

/-! ## One request -/

/-- The paths of what belongs to users. -/
def ownPaths : List String :=
  ["/api/user/orders", "/api/user/balance", "/api/user/balance/withdraw", "/api/user/withdrawals"]

/-- Without a session, nothing is done. -/
theorem run_of_no_user (he : e.path ∈ ownPaths) {a : Response} (h : service.user m r = .error a)
    (s : Store) : service.run m r s e = (some a, s) := by
  cases e with
  | register => simp [ownPaths, Endpoint.path] at he
  | login => simp [ownPaths, Endpoint.path] at he
  | health => simp [ownPaths, Endpoint.path] at he
  | submit => simp [Service.run, Service.submit, h, bind, Except.bind]
  | withdraw => simp [Service.run, Service.withdraw, h, bind, Except.bind]
  | orders => simp [Service.run, Service.orders, h]
  | balance => simp [Service.run, Service.balance, h]
  | withdrawals => simp [Service.run, Service.withdrawals, h]

/-- With a session, what is done touches what is the user's. -/
theorem touches_run (he : e.path ∈ ownPaths) (h : service.user m r = .ok user) (s : Store) :
    s.Touches user (service.run m r s e).2 := by
  have heffect := run_effect service m r s e
  generalize service.run m r s e = done at heffect
  cases heffect with
  | refused | brokenOff | looked | known => exact Store.Touches.refl user s
  | registered | unwelcomed => simp [ownPaths, Endpoint.path] at he
  | submitted owner session body number =>
    -- The session of the endpoint is the one that the request has.
    cases h.symm.trans session
    exact Store.touches_addOrder s number user m.time
  | spent owner session request number b b' =>
    cases h.symm.trans session
    exact Store.touches_withdrawal s number request.sum user m.time b'

/-- With a session, what is told hangs on what is the user's. -/
theorem run_fst_congr (he : e.path ∈ ownPaths) (hget : e.method = "GET")
    (h : service.user m r = .ok user) (hown : t.belongings user = s.belongings user) :
    (service.run m r t e).1 = (service.run m r s e).1 := by
  simp only [Store.belongings, Store.Belongings.mk.injEq] at hown
  obtain ⟨hbalance, horders, hwithdrawals⟩ := hown
  cases e with
  | register | login | submit | withdraw => simp [Endpoint.method] at hget
  | health => rfl
  | orders => simp only [Service.run, Service.orders, h, horders]
  | balance => simp only [Service.run, Service.balance, h, hbalance]
  | withdrawals => simp only [Service.run, Service.withdrawals, h, hwithdrawals]

/-! ## Many requests -/

/-- The store after some requests, each at its moment. -/
def Service.handleAll (service : Service) (s : Store) (requests : List (Moment × Request)) : Store :=
  requests.foldl (fun s q => (service.handle q.1 q.2 s).2) s

/-- A request without a session of a user who has a balance changes nothing of what
    is that user's. -/
theorem belongings_handle (hs : (s.balance? user).isSome) (h : ¬ service.Admits m r user) :
    (service.handle m r s).2.belongings user = s.belongings user := by
  rw [admits_iff] at h
  cases hendpoint : service.endpointOf? r with
  | none =>
    obtain ⟨a, -, hhandle⟩ := handle_of_no_endpoint hendpoint
    rw [hhandle]
  | some e =>
    rw [handle_of_endpoint hendpoint]
    have heffect := run_effect service m r s e
    generalize service.run m r s e = done at heffect
    cases heffect with
    | refused | brokenOff | looked | known => rfl
    | registered login passwordHash | unwelcomed login passwordHash =>
      exact Store.belongings_addUser hs login passwordHash
    | submitted owner session body number =>
      have hne : user ≠ owner := fun heq => h (heq ▸ session)
      exact (Store.touches_addOrder s number owner m.time).belongings hne
    | spent owner session request number b b' =>
      have hne : user ≠ owner := fun heq => h (heq ▸ session)
      exact (Store.touches_withdrawal s number request.sum owner m.time b').belongings hne

theorem belongings_handleAll (hs : (s.balance? user).isSome) {requests : List (Moment × Request)}
    (h : ∀ q ∈ requests, ¬ service.Admits q.1 q.2 user) :
    (service.handleAll s requests).belongings user = s.belongings user := by
  -- Users may register in between: the balance of this one is what makes it none of them.
  induction requests generalizing s with
  | nil => rfl
  | cons q requests ih =>
    rw [List.forall_mem_cons] at h
    have hfirst := belongings_handle hs h.1
    have hbalance : ((service.handle q.1 q.2 s).2.balance? user).isSome := by
      rwa [show (service.handle q.1 q.2 s).2.balance? user = s.balance? user from
        congrArg Store.Belongings.balance hfirst]
    exact (ih hbalance h.2).trans hfirst

/-- Of what belongs to users, a request without a good token is told nothing and
    changes nothing. One with the token of a user touches what is that user's only,
    and is told, if it is not a `POST`, what hangs on that only. And no requests
    without a good token of a registered user change anything of what is the
    user's. -/
theorem isolated (service : Service) :
    (∀ m r s, r.path ∈ ownPaths → r.method ≠ "OPTIONS" →
      let handled := service.handle m r s
      ((∀ user, ¬ service.Admits m r user) →
        ∃ a : Response, a.isSuccess = false ∧ handled = (some a, s)) ∧
      ∀ user, service.Admits m r user →
        s.Touches user handled.2 ∧
        (r.method ≠ "POST" → ∀ t : Store, t.belongings user = s.belongings user →
          (service.handle m r t).1 = handled.1)) ∧
    ∀ (s : Store) (user : User) (requests : List (Moment × Request)), s.Reachable →
      user ∈ s.users → (∀ q ∈ requests, ¬ service.Admits q.1 q.2 user.id) →
      (service.handleAll s requests).belongings user.id = s.belongings user.id := by
  refine ⟨fun m r s hpath hmethod => ?_, fun s user requests hs huser hrequests =>
    belongings_handleAll (hs.numbered.isSome_balance? huser) hrequests⟩
  dsimp only
  cases hendpoint : service.endpointOf? r with
  | none =>
    obtain ⟨a, ha, hhandle⟩ := handle_of_no_endpoint hendpoint
    refine ⟨fun _ => ⟨a, ha.resolve_left hmethod, hhandle m s⟩, fun user _ => ⟨?_, fun _ t _ => ?_⟩⟩
    · rw [hhandle]
      exact Store.Touches.refl user s
    · rw [hhandle, hhandle]
  | some e =>
    have he : e.path ∈ ownPaths := (endpointOf?_eq_some hendpoint).1 ▸ hpath
    have hhandle := handle_of_endpoint hendpoint m
    simp only [admits_iff]
    refine ⟨fun hno => ?_, fun user huser => ⟨?_, fun hpost t hown => ?_⟩⟩
    · cases hsession : service.user m r with
      | ok user => exact absurd hsession (hno user)
      | error a =>
        have ha : a.isSuccess = false := Refuses.user service m r a hsession
        exact ⟨dress r a, (isSuccess_dress r a).trans ha,
          by rw [hhandle, run_of_no_user he hsession, Option.map_some]⟩
    · rw [hhandle]
      exact touches_run he huser s
    · have hget : e.method = "GET" := by
        rw [ne_eq, method_eq_post_iff hendpoint] at hpost
        cases e <;> first | rfl | exact absurd rfl hpost
      rw [hhandle, hhandle, run_fst_congr he hget huser hown]

/-- An order is submitted by one user, and in no one's name. What is another user's
    stays as it is. -/
theorem isolated_submission :
    let service : Service := ⟨.ofSecret "secret" 60, 1, 1000, 0⟩
    let s := Store.empty.operateAll [.createUser "ann" "", .createUser "bob" ""]
    let m : Moment := ⟨⟨30, 0⟩, []⟩
    let byBob : Request := ⟨"POST", "/api/user/orders",
      [("authorization", Text.bytes (Session.bearer (service.keys.issue 2 0)))], Text.bytes "18"⟩
    let byNoOne : Request := { byBob with headers := [] }
    service.Admits m byBob 2 ∧ s.Touches 2 (service.handle m byBob s).2 ∧
      (∃ a : Response, a.isSuccess = false ∧ service.handle m byNoOne s = (some a, s)) ∧
      (service.handleAll s [(m, byBob), (m, byNoOne)]).belongings 1 = s.belongings 1 := by
  intro service s m byBob byNoOne
  have hbob : service.Admits m byBob 2 :=
    Service.admits_issued ⟨by decide, by decide⟩ rfl (by decide)
  have hnone (user : Int) : ¬ service.Admits m byNoOne user := by
    rw [admits_iff]
    exact nofun
  have hothers : ∀ q ∈ [(m, byBob), (m, byNoOne)], ¬ service.Admits q.1 q.2 1 := by
    simp only [List.forall_mem_cons]
    exact ⟨fun hann => absurd (hbob.unique hann) (by decide), hnone 1, nofun⟩
  have hann : (⟨1, "ann", ""⟩ : User) ∈ s.users := List.mem_cons_self
  obtain ⟨hrequests, hsequences⟩ := isolated service
  exact ⟨hbob, ((hrequests m byBob s (by decide) (by decide)).2 2 hbob).1,
    (hrequests m byNoOne s (by decide) (by decide)).1 hnone,
    hsequences s _ _ ⟨_, rfl⟩ hann hothers⟩

end Http

end Loyalty
