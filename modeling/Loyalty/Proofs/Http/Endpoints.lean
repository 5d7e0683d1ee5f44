import Loyalty.Http.Router
import Loyalty.Proofs.Json.Records
import Loyalty.Proofs.Ledger.Rows
import Loyalty.Proofs.Session.Tokens

/-!
# What endpoints do

An endpoint that does not carry out what was asked leaves the store as it is, and
says so by a response that is no success; one that is broken off gives no response.
All that an endpoint can do else is told by `Service.Effect` (`run_effect`): it only
looks at the store, or finds an order that is known, or adds a user, or an order or a
withdrawal of the user who asks.

What an endpoint does to the store comes first, and its response after it. Of the
responses only one has to be made still: the token of a user who has just registered.
It can stand in its headers (`bringing_issue`), and so nothing keeps it from being made
but a second of expiry that does not fit where that breaks off (`welcome_eq`).
-/

namespace Loyalty.Http

variable {service : Service} {m : Moment} {r : Request} {s : Store} {a : Response}

/-! ## Refusals -/

theorem le_of_statusOf? {f : Failure} {status : Nat} (h : statusOf? f = some status) :
    400 ≤ status := by
  cases f <;> simp only [statusOf?, Option.some.injEq, reduceCtorEq] at h <;> omega

/-- No failure is told as a success. -/
theorem isSuccess_refusal (f : Failure) : (refusal f).isSuccess = false := by
  cases h : statusOf? f with
  | none => simp [refusal, h, Response.plain, Response.isSuccess]
  | some status =>
    have hstatus : ¬ status < 300 := by
      have hle := le_of_statusOf? h
      omega
    simp [refusal, h, Response.plain, Response.isSuccess, hstatus]

theorem isSuccess_credentialsRefusal (f : Failure) : (credentialsRefusal f).isSuccess = false := by
  cases f with
  | invalid cause => rfl
  | _ => exact isSuccess_refusal _

/-- What cannot be taken from a request is answered by no success. -/
def Refuses {α : Type} (taken : Except Response α) : Prop :=
  ∀ a, taken = .error a → a.isSuccess = false

namespace Refuses

variable {α β : Type}

theorem ok (x : α) : Refuses (.ok x) := fun _ h => nomatch h

theorem error (h : a.isSuccess = false) : Refuses (.error a : Except Response α) := by
  rintro b ⟨⟩
  exact h

theorem bind {x : Except Response α} {f : α → Except Response β} (hx : Refuses x)
    (hf : ∀ y, x = .ok y → Refuses (f y)) : Refuses (x >>= f) := by
  intro a h
  rcases bind_eq_error.1 h with h | ⟨y, hy, h⟩
  · exact hx a h
  · exact hf y hy a h

theorem readBody (service : Service) (r : Request) : Refuses (service.readBody r) := by
  unfold Service.readBody
  extract_lets limit
  split_ifs
  · exact error rfl
  · exact ok _

theorem readText (service : Service) (r : Request) : Refuses (service.readText r) := by
  refine (readBody service r).bind fun body _ => ?_
  split
  · exact ok _
  · exact error rfl

theorem readJson (service : Service) (r : Request) (read : Json.Reader α) :
    Refuses (service.readJson r read) := by
  rw [Service.readJson]
  split_ifs
  · refine (readBody service r).bind fun body _ => ?_
    split
    · exact ok _
    · exact error rfl
    · exact error rfl
  · exact error rfl

theorem user (service : Service) (m : Moment) (r : Request) : Refuses (service.user m r) := by
  rw [Service.user]
  split
  · exact error rfl
  · split
    · exact ok _
    · exact error rfl

end Refuses

/-! ## Sessions that begin -/

/-- A user is welcomed, unless the expiry of the session breaks that off. -/
theorem welcome_eq (service : Service) (m : Moment) (user : User) :
    service.welcome m user =
      if service.keys.issues m.time.seconds then
        some (service.bringing (service.keys.issue user.id m.time.seconds))
      else none := by
  rw [Service.welcome, SessionKeys.tryIssue_eq]
  split_ifs <;> rfl

/-! ## Effects -/

/-- The request brings the login and the password of a user who can be registered, and
    this is what is stored of them. -/
structure Service.Enrols (service : Service) (m : Moment) (r : Request) (s : Store)
    (login passwordHash : String) : Prop where
  credentials : ∃ c, service.readJson r Json.readCredentials = .ok c ∧
    Credentials.read c.login c.password = .ok login ∧
    passwordHash = Password.hash c.password m.salt service.rounds
  fresh : ∀ u ∈ s.users, u.login ≠ login

/-- What an endpoint makes of the store `s`, and the response that it gives. -/
inductive Service.Effect (service : Service) (m : Moment) (r : Request) (s : Store) :
    Endpoint → Handled → Prop
  | refused (e : Endpoint) (a : Response) (refused : a.isSuccess = false) :
    Effect service m r s e (some a, s)
  /-- A sum overflows before anything is done. -/
  | brokenOff (e : Endpoint) : Effect service m r s e (none, s)
  | registered (login passwordHash : String) (enrols : service.Enrols m r s login passwordHash)
      (issues : service.keys.issues m.time.seconds = true) :
    Effect service m r s .register
      (some (service.bringing (service.keys.issue (s.lastUser + 1) m.time.seconds)),
        s.addUser login passwordHash)
  /-- The user is stored, and then the expiry of the session overflows. -/
  | unwelcomed (login passwordHash : String) (enrols : service.Enrols m r s login passwordHash)
      (overflows : service.keys.issues m.time.seconds = false) :
    Effect service m r s .register (none, s.addUser login passwordHash)
  /-- The endpoint only looks at the store. -/
  | looked (e : Endpoint) (reads : e.method = "GET" ∨ e = .login) (a : Response) :
    Effect service m r s e (some a, s)
  /-- The user submitted the order before. -/
  | known (user : Int) (session : service.user m r = .ok user) :
    Effect service m r s .submit (some (.bare 200), s)
  | submitted (user : Int) (session : service.user m r = .ok user) (body number : String)
      (text : service.readText r = .ok body) (valid : OrderNumber.read body = .ok number)
      (fresh : ∀ o ∈ s.orders, o.number ≠ number) :
    Effect service m r s .submit (some (.bare 202), s.addOrder number user m.time)
  | spent (user : Int) (session : service.user m r = .ok user) (request : Json.SpendRequest)
      (number : String) (b b' : Balance) (body : service.readJson r Json.readSpend = .ok request)
      (valid : OrderNumber.read request.order = .ok number)
      (balance : s.balance? user = some b) (debit : b.debit request.sum = (.ok (), b'))
      (fresh : ∀ w ∈ s.withdrawals, w.number ≠ number) :
    Effect service m r s .withdraw
      (some (.bare 200), (s.addWithdrawal number request.sum user m.time).setBalance user b')

open Service (Effect)

theorem register_effect (service : Service) (m : Moment) (r : Request) (s : Store) :
    Effect service m r s .register (service.register m r s) := by
  rw [Service.register]
  cases hbody : service.readJson r Json.readCredentials with
  | error a => exact .refused _ a (Refuses.readJson service r _ a hbody)
  | ok c =>
    dsimp only
    rw [Store.register]
    cases hvalid : Credentials.read c.login c.password with
    | error cause => exact .refused _ _ (isSuccess_credentialsRefusal _)
    | ok login =>
      rcases s.createUser_spec login (Password.hash c.password m.salt service.rounds) with
        ⟨hfresh, e⟩ | ⟨-, e⟩ <;> dsimp only <;> rw [e]
      · have henrols : service.Enrols m r s login
            (Password.hash c.password m.salt service.rounds) :=
          ⟨⟨c, hbody, hvalid, rfl⟩, hfresh⟩
        rw [Service.greet, welcome_eq]
        split_ifs with hissues
        · exact .registered login _ henrols hissues
        · exact .unwelcomed login _ henrols (Bool.not_eq_true _ ▸ hissues)
      · exact .refused _ _ (isSuccess_credentialsRefusal _)

/-- Logging in adds nothing up. -/
theorem authenticate_ne_overflow (s : Store) (login password : String) :
    s.authenticate login password ≠ .error .overflow := by
  rw [Store.authenticate]
  split
  · simp [fails]
  · split
    · simp [fails]
    · split <;> simp [fails]

theorem login_effect (service : Service) (m : Moment) (r : Request) (s : Store) :
    Effect service m r s .login (service.login m r s) := by
  rw [Service.login]
  cases service.readJson r Json.readCredentials with
  | error a => exact .looked _ (.inr rfl) a
  | ok c =>
    dsimp only
    cases hauth : s.authenticate c.login c.password with
    | ok user =>
      rw [Service.greet, welcome_eq]
      split_ifs
      · exact .looked _ (.inr rfl) _
      · exact .brokenOff _
    | error e =>
      cases e with
      | failure f => exact .looked _ (.inr rfl) _
      | overflow => exact absurd hauth (authenticate_ne_overflow s c.login c.password)

theorem submit_effect (service : Service) (m : Moment) (r : Request) (s : Store) :
    Effect service m r s .submit (service.submit m r s) := by
  unfold Service.submit
  extract_lets taken status
  have hrefuses : Refuses taken := by
    refine (Refuses.user service m r).bind fun user _ => ?_
    refine (Refuses.readText service r).bind fun body _ => ?_
    split_ifs
    · exact Refuses.error rfl
    · exact Refuses.error rfl
    · exact Refuses.ok _
  cases htaken : taken with
  | error a => exact .refused _ a (hrefuses a htaken)
  | ok request =>
    obtain ⟨user, huser, htaken⟩ := bind_eq_ok.1 htaken
    obtain ⟨body, hbody, htaken⟩ := bind_eq_ok.1 htaken
    split_ifs at htaken
    cases htaken
    dsimp only
    cases hvalid : OrderNumber.read body with
    | error cause =>
      simp only [Store.submit, hvalid, respond]
      exact .refused _ _ (isSuccess_refusal _)
    | ok number =>
      rcases s.createOrder_spec number user m.time with ⟨hfresh, e⟩ | ⟨-, e⟩ <;>
        simp only [Store.submit, hvalid, e]
      · exact .submitted user huser body number hbody hvalid hfresh
      · -- The number is that of an order, which may be the user's own.
        cases s.findOrder? number with
        | none => exact .refused _ _ (isSuccess_refusal _)
        | some order =>
          dsimp only
          split_ifs
          · exact .known user huser
          · exact .refused _ _ (isSuccess_refusal _)

theorem withdraw_effect (service : Service) (m : Moment) (r : Request) (s : Store) :
    Effect service m r s .withdraw (service.withdraw m r s) := by
  unfold Service.withdraw
  extract_lets taken
  have hrefuses : Refuses taken := by
    refine (Refuses.user service m r).bind fun user _ => ?_
    exact (Refuses.readJson service r _).bind fun request _ => Refuses.ok _
  cases htaken : taken with
  | error a => exact .refused _ a (hrefuses a htaken)
  | ok request =>
    obtain ⟨user, huser, htaken⟩ := bind_eq_ok.1 htaken
    obtain ⟨request, hbody, htaken⟩ := bind_eq_ok.1 htaken
    cases htaken
    dsimp only
    rw [Store.spend]
    cases hvalid : OrderNumber.read request.order with
    | error cause => exact .refused _ _ (isSuccess_refusal _)
    | ok number =>
      cases request.sum.checkSpend with
      | error cause => exact .refused _ _ (isSuccess_refusal _)
      | ok u =>
        dsimp only
        rcases s.withdraw_spec number request.sum user m.time with
          ⟨b, b', hb, hdebit, hfresh, e⟩ | ⟨_, e⟩ | ⟨_, _, _, e⟩ <;> rw [e]
        · exact .spent user huser request number b b' hbody hvalid hb hdebit hfresh
        · exact .refused _ _ (isSuccess_refusal _)
        · exact .brokenOff _

theorem run_effect (service : Service) (m : Moment) (r : Request) (s : Store) (e : Endpoint) :
    Effect service m r s e (service.run m r s e) := by
  cases e with
  | register => exact register_effect service m r s
  | login => exact login_effect service m r s
  | submit => exact submit_effect service m r s
  | withdraw => exact withdraw_effect service m r s
  | orders => exact .looked _ (.inl rfl) _
  | balance => exact .looked _ (.inl rfl) _
  | withdrawals => exact .looked _ (.inl rfl) _
  | health => exact .looked _ (.inl rfl) _

end Loyalty.Http
