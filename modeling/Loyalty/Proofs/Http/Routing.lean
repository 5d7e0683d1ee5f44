import Loyalty.Http.Router
import Mathlib.Data.List.Basic

/-!
# Where requests come to

A request comes to one endpoint, that of its path and its method
(`Service.endpointOf?`, `endpointOf?_eq_some`), which handles it: what becomes of
the response on its way changes nothing of its status (`handle_of_endpoint`). A
request that comes to none is answered without a look at the store, and by no
success unless its method is `OPTIONS` (`handle_of_no_endpoint`).
-/

namespace Loyalty.Http

variable {service : Service} {r : Request}

/-- The path of an endpoint. -/
def Endpoint.path : Endpoint → String
  | register => "/api/user/register"
  | login => "/api/user/login"
  | submit | orders => "/api/user/orders"
  | balance => "/api/user/balance"
  | withdraw => "/api/user/balance/withdraw"
  | withdrawals => "/api/user/withdrawals"
  | health => "/api/health"

/-- The endpoint that a request comes to. -/
def Service.endpointOf? (service : Service) (r : Request) : Option Endpoint :=
  if r.method = "OPTIONS" ∨ service.announcesTooMuch r then none
  else (paths.lookup r.path).bind (endpoint? · r.method)

/-- What becomes of the response of an endpoint on its way to the client. -/
def dress (r : Request) (a : Response) : Response :=
  let a := (Coding.pack r a).withHeader "access-control-allow-origin" "*"
  if r.method = "HEAD" then { a with body := "" } else a

@[simp]
theorem status_pack (r : Request) (a : Response) : (Coding.pack r a).status = a.status := by
  rw [Coding.pack]
  split_ifs <;> rfl

@[simp]
theorem status_dress (r : Request) (a : Response) : (dress r a).status = a.status := by
  rw [dress]
  split_ifs <;> exact status_pack r a

@[simp]
theorem isSuccess_dress (r : Request) (a : Response) : (dress r a).isSuccess = a.isSuccess := by
  rw [Response.isSuccess, Response.isSuccess, status_dress]

theorem isSuccess_congr {a b : Response} (h : a.status = b.status) : a.isSuccess = b.isSuccess := by
  rw [Response.isSuccess, Response.isSuccess, h]

/-- A request that comes to an endpoint is handled by it. -/
theorem handle_of_endpoint {e : Endpoint} (h : service.endpointOf? r = some e) (m : Moment)
    (s : Store) : service.handle m r s =
      ((service.run m r s e).1.map (dress r), (service.run m r s e).2) := by
  rw [Service.endpointOf?] at h
  split_ifs at h with hguard
  obtain ⟨endpoints, hlookup, hfind⟩ := Option.bind_eq_some_iff.1 h
  rw [not_or] at hguard
  have hguarded : ∀ inner, service.guarded r s inner = (inner.1.map fun a =>
      (Coding.pack r a).withHeader "access-control-allow-origin" "*", inner.2) := by
    intro inner
    rw [Service.guarded, if_neg hguard.1]
    exact if_neg hguard.2
  simp only [Service.handle, hlookup, hfind, hguarded, Option.map_map]
  rfl

/-- What stands around the endpoints answers some requests itself. -/
theorem guarded_of_guard (h : r.method = "OPTIONS" ∨ service.announcesTooMuch r) :
    ∃ a : Response, (r.method = "OPTIONS" ∨ a.isSuccess = false) ∧
      ∀ s inner, service.guarded r s inner = (some a, s) := by
  by_cases hoptions : r.method = "OPTIONS"
  · exact ⟨preflight, .inl hoptions, fun s inner => if_pos hoptions⟩
  · have hmuch : service.announcesTooMuch r := h.resolve_left hoptions
    refine ⟨_, .inr ?_, fun s inner => by rw [Service.guarded, if_neg hoptions]; exact if_pos hmuch⟩
    exact isSuccess_congr (status_pack r _)

/-- Of what no endpoint does, nothing is a success. -/
theorem guarded_of_refused (service : Service) (r : Request) {b : Response}
    (hb : b.isSuccess = false) :
    ∃ a : Response, (r.method = "OPTIONS" ∨ a.isSuccess = false) ∧
      ∀ s, service.guarded r s (some b, s) = (some a, s) := by
  by_cases hguard : r.method = "OPTIONS" ∨ service.announcesTooMuch r
  · obtain ⟨a, ha, h⟩ := guarded_of_guard hguard
    exact ⟨a, ha, fun s => h s _⟩
  · rw [not_or] at hguard
    refine ⟨_, .inr ?_, fun s => by rw [Service.guarded, if_neg hguard.1]; exact if_neg hguard.2⟩
    exact (isSuccess_congr (status_pack r b)).trans hb

/-- A request that comes to no endpoint is answered without a look at the store,
    and by no success unless its method is `OPTIONS`. -/
theorem handle_of_no_endpoint (h : service.endpointOf? r = none) :
    ∃ a : Response, (r.method = "OPTIONS" ∨ a.isSuccess = false) ∧
      ∀ m s, service.handle m r s = (some a, s) := by
  cases hlookup : paths.lookup r.path with
  | none =>
    obtain ⟨a, ha, hguarded⟩ := guarded_of_refused service r (b := .bare 404) rfl
    exact ⟨a, ha, fun m s => by simp only [Service.handle, hlookup, hguarded]⟩
  | some endpoints =>
    cases hfind : endpoint? endpoints r.method with
    | none =>
      obtain ⟨a, ha, hguarded⟩ := guarded_of_refused service r (b := .bare 405) rfl
      exact ⟨a.withHeader "allow" (allowed endpoints), ha,
        fun m s => by simp only [Service.handle, hlookup, hfind, hguarded, Option.map_some]⟩
    | some e =>
      -- There is an endpoint, so that the request did not get as far.
      have hguard : r.method = "OPTIONS" ∨ service.announcesTooMuch r := by
        by_contra hguard
        simp [Service.endpointOf?, hguard, hlookup, hfind] at h
      obtain ⟨a, ha, hguarded⟩ := guarded_of_guard hguard
      refine ⟨if r.method = "HEAD" then { a with body := "" } else a, ?_,
        fun m s => by simp only [Service.handle, hlookup, hfind, hguarded, Option.map_some]⟩
      split_ifs <;> exact ha

theorem path_of_mem_paths : ∀ row ∈ paths, ∀ e ∈ row.2, row.1 = e.path := by decide

theorem endpointOf?_eq_some {e : Endpoint} (h : service.endpointOf? r = some e) :
    r.path = e.path ∧ e.method = if r.method = "HEAD" then "GET" else r.method := by
  rw [Service.endpointOf?] at h
  split_ifs at h with hguard
  obtain ⟨endpoints, hlookup, hfind⟩ := Option.bind_eq_some_iff.1 h
  have hrow : (r.path, endpoints) ∈ paths := by
    obtain ⟨before, after, hpaths, -⟩ := List.lookup_eq_some_iff.1 hlookup
    simp [hpaths]
  refine ⟨path_of_mem_paths _ hrow e (List.mem_of_find?_eq_some hfind), ?_⟩
  simpa using List.find?_some hfind

/-- The endpoints for `POST` are those that requests with this method come to. -/
theorem method_eq_post_iff {e : Endpoint} (h : service.endpointOf? r = some e) :
    r.method = "POST" ↔ e.method = "POST" := by
  rw [(endpointOf?_eq_some h).2]
  split_ifs with hhead
  · simp [hhead]
  · rfl

end Loyalty.Http
