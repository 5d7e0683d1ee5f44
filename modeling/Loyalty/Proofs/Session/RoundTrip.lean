import Loyalty.Proofs.Session.Tokens

/-!
# Sessions come back

A client sends back what it was given: the cookie that was set, among other cookies, or
the token behind the word `Bearer`. Either way the token is found as it was issued, and
tells the user it was issued for until it expires.

* `cookieValue?_cookieText`: what is read from a list of cookies is what was written there;
* `Carries`: the two ways in which a request carries a token;
* `session_comes_back`: all of it, from issuing a token to reading it.
-/

namespace Loyalty

open Loyalty.Text

namespace Session

/-! ## Cookies -/

/-- A cookie as a client has it. -/
structure Cookie where
  name : List Char
  value : List Char

namespace Cookie

/-- The text of a cookie. -/
def pair (c : Cookie) : List Char := c.name ++ '=' :: c.value

/-- The cookie can be told from others: its name ends where it should, and so does the cookie. -/
structure WellFormed (c : Cookie) : Prop where
  name : '=' ∉ c.name
  pair : ';' ∉ c.pair
  printable : ∀ x ∈ c.pair, 32 ≤ x.toNat ∧ x.toNat < 127

instance (c : Cookie) : Decidable c.WellFormed :=
  decidable_of_iff ('=' ∉ c.name ∧ ';' ∉ c.pair ∧
      c.pair.all (fun x => 32 ≤ x.toNat && x.toNat < 127) = true)
    ⟨fun ⟨hname, hpair, hall⟩ => ⟨hname, hpair, by simpa using hall⟩,
      fun h => ⟨h.name, h.pair, by simpa using h.printable⟩⟩

/-- What the cookie has for a name. -/
def read? (c : Cookie) (name : List Char) : Option String :=
  if trimChars c.name = name then some (.ofList (trimChars c.value)) else none

/-- The cookie behind a blank. -/
def padded (c : Cookie) : Cookie := { c with name := ' ' :: c.name }

variable {c : Cookie} {name : List Char}

theorem WellFormed.padded (h : c.WellFormed) : c.padded.WellFormed where
  name := by simpa [Cookie.padded] using h.name
  pair := by simpa [Cookie.padded, Cookie.pair] using h.pair
  printable := List.forall_mem_cons.2 ⟨by decide, h.printable⟩

@[simp] theorem read?_padded : c.padded.read? name = c.read? name := by
  rw [read?, padded, trimChars_cons (by decide), read?]

end Cookie

/-- The text of some cookies. -/
def cookieText (cookies : List Cookie) : List Char :=
  "; ".toList.intercalate (cookies.map Cookie.pair)

variable {name piece rest : List Char} {c d : Cookie} {cookies : List Cookie}

theorem cookieText_cons_cons :
    cookieText (c :: d :: cookies) = c.pair ++ ';' :: cookieText (d.padded :: cookies) := by
  cases cookies <;>
    simp [cookieText, List.intercalate_cons_cons, Cookie.pair, Cookie.padded]

theorem printable_cookieText (h : ∀ c ∈ cookies, c.WellFormed) :
    ∀ x ∈ cookieText cookies, 32 ≤ x.toNat ∧ x.toNat < 127 := by
  cases cookies with
  | nil => exact fun x hx => absurd hx List.not_mem_nil
  | cons c cookies =>
    induction cookies generalizing c with
    | nil => simpa [cookieText] using (h c List.mem_cons_self).printable
    | cons d cookies ih =>
      obtain ⟨hc, hd, hcookies⟩ := by simpa only [List.forall_mem_cons] using h
      rw [cookieText_cons_cons]
      refine List.forall_mem_append.2 ⟨hc.printable, List.forall_mem_cons.2 ⟨by decide, ?_⟩⟩
      exact ih d.padded (List.forall_mem_cons.2 ⟨hd.padded, hcookies⟩)

theorem cookieValue?_append (h : ';' ∉ piece) :
    cookieValue? name (.ofList (piece ++ ';' :: rest)) =
      (cookieValue? name (.ofList piece)).or (cookieValue? name (.ofList rest)) := by
  simp only [cookieValue?, String.toList_ofList, splitAll_append h, splitAll_of_not_mem h]
  rw [← List.singleton_append, List.findSome?_append]

theorem cookieValue?_pair (h : c.WellFormed) :
    cookieValue? name (.ofList c.pair) = c.read? name := by
  have hsplit : splitFirst '=' c.pair = some (c.name, c.value) := splitFirst_append h.name c.value
  simp only [cookieValue?, String.toList_ofList, splitAll_of_not_mem h.pair, List.findSome?_cons,
    hsplit, Option.bind_eq_bind, Option.bind_some, Cookie.read?]
  split_ifs <;> rfl

/-- What is read from a text of cookies is the first that one of them has for the name. -/
theorem cookieValue?_cookieText (h : ∀ c ∈ cookies, c.WellFormed) :
    cookieValue? name (.ofList (cookieText cookies)) = cookies.findSome? (·.read? name) := by
  cases cookies with
  | nil => rfl
  | cons c cookies =>
    induction cookies generalizing c with
    | nil =>
      have hc : c.WellFormed := h c List.mem_cons_self
      simp [cookieText, cookieValue?_pair hc]
    | cons d cookies ih =>
      obtain ⟨hc, hd, hcookies⟩ := by simpa only [List.forall_mem_cons] using h
      rw [cookieText_cons_cons, cookieValue?_append hc.pair, cookieValue?_pair hc,
        ih d.padded (List.forall_mem_cons.2 ⟨hd.padded, hcookies⟩)]
      simp only [List.findSome?_cons, Cookie.read?_padded]
      cases c.read? name <;> rfl

/-! ## Tokens in requests -/

/-- What a client keeps of a cookie that is set. -/
def setPair (token : String) (lifetime : Nat) : List Char :=
  (cookie token lifetime).toList.takeWhile (· ≠ ';')

/-- A request carries a token: in the cookie as it was set, with cookies of other names
    before and after it, or, where there is no such cookie, as a bearer token. -/
inductive Carries (r : Http.Request) (token : String) (lifetime : Nat) : Prop
  | cookie (before after : List Cookie)
      (others : ∀ c ∈ before ++ after, c.WellFormed ∧ trimChars c.name ≠ cookieName)
      (header : (r.headerValues "cookie").head? = some (bytes (.ofList ("; ".toList.intercalate
        (before.map Cookie.pair ++ setPair token lifetime :: after.map Cookie.pair)))))
  | bearer
      (noCookie : ∀ text, r.header? "cookie" = some text → ∀ pair ∈ splitAll ';' text.toList,
        ∀ key value, splitFirst '=' pair = some (key, value) → trimChars key ≠ cookieName)
      (header : (r.headerValues "authorization").head? = some (bytes (bearer token)))

/-- The cookie of a session. -/
def Cookie.ofSession (token : String) : Cookie := ⟨cookieName, token.toList⟩

variable {token : String} {lifetime : Nat} {r : Http.Request}

theorem pair_ofSession (token : String) :
    (Cookie.ofSession token).pair = "auth=".toList ++ token.toList := rfl

theorem setPair_eq (h : ';' ∉ token.toList) :
    setPair token lifetime = (Cookie.ofSession token).pair := by
  have hend : ';' ∉ (Cookie.ofSession token).pair := by
    rw [pair_ofSession, List.mem_append, not_or]
    exact ⟨by decide, h⟩
  have hpair : ∀ x ∈ (Cookie.ofSession token).pair, decide (x ≠ ';') = true :=
    fun x hx => decide_eq_true (ne_of_mem_of_not_mem hx hend)
  -- What follows the pair begins with a semicolon.
  obtain ⟨rest, hcookie⟩ : ∃ rest, (cookie token lifetime).toList =
      (Cookie.ofSession token).pair ++ ';' :: rest :=
    ⟨_, by rw [cookie, String.toList_ofList, List.append_assoc]; rfl⟩
  rw [setPair, hcookie, List.takeWhile_append_of_pos hpair, List.takeWhile_cons_of_neg (by decide),
    List.append_nil]

/-- The cookie of the session is read, where none before it has the name. -/
theorem cookieValue?_among {before after : List Cookie}
    (hwell : ∀ c ∈ before ++ Cookie.ofSession token :: after, c.WellFormed)
    (hbefore : ∀ c ∈ before, trimChars c.name ≠ cookieName)
    (htoken : trimChars token.toList = token.toList) :
    cookieValue? cookieName (.ofList (cookieText (before ++ Cookie.ofSession token :: after))) =
      some token := by
  have hothers : before.findSome? (·.read? cookieName) = none := by
    rw [List.findSome?_eq_none_iff]
    exact fun c hc => if_neg (hbefore c hc)
  have hown : (Cookie.ofSession token).read? cookieName = some token := by
    have hname : trimChars cookieName = cookieName := by decide
    rw [Cookie.ofSession, Cookie.read?, if_pos hname, htoken, String.ofList_toList]
  rw [cookieValue?_cookieText hwell, List.findSome?_append, hothers, Option.none_or,
    List.findSome?_cons, hown]

/-- A text without a cookie of the name has nothing for it. -/
theorem cookieValue?_eq_none {text : String}
    (h : ∀ pair ∈ splitAll ';' text.toList, ∀ key value, splitFirst '=' pair = some (key, value) →
      trimChars key ≠ name) : cookieValue? name text = none := by
  rw [cookieValue?, List.findSome?_eq_none_iff]
  intro pair hpair
  cases hsplit : splitFirst '=' pair with
  | none => rfl
  | some keyValue => exact if_neg (h pair hpair _ _ hsplit)

end Session

namespace SessionKeys

open Session

variable (keys : SessionKeys) {user now : Int}

/-- The cookie of a token that was issued has nothing in it that would end it. -/
theorem wellFormed_issue : (Cookie.ofSession (keys.issue user now)).WellFormed := by
  have hall : ("auth=".toList ++ tokenChars).all
      (fun x => x ≠ ';' && 32 ≤ x.toNat && x.toNat < 127) = true := by decide
  have hchars : ∀ x ∈ (Cookie.ofSession (keys.issue user now)).pair,
      x ≠ ';' ∧ 32 ≤ x.toNat ∧ x.toNat < 127 := by
    intro x hx
    rw [pair_ofSession, List.mem_append] at hx
    have hmem : x ∈ "auth=".toList ++ tokenChars := List.mem_append.2 (hx.imp_right mem_tokenChars)
    simpa [and_assoc] using List.all_eq_true.1 hall x hmem
  have hname : '=' ∉ cookieName := by decide
  exact ⟨hname, fun h => (hchars _ h).1 rfl, fun x hx => (hchars x hx).2⟩

/-- However a request carries a token that was issued, it is found. -/
theorem tokenOf?_of_carries {r : Http.Request} {lifetime : Nat}
    (h : Carries r (keys.issue user now) lifetime) :
    Http.tokenOf? r = some (keys.issue user now) := by
  cases h with
  | cookie before after others header =>
    have hsemicolon : ';' ∉ (keys.issue user now).toList := fun h =>
      absurd (mem_tokenChars h) (by decide)
    rw [setPair_eq hsemicolon, ← List.map_cons, ← List.map_append, ← cookieText] at header
    obtain ⟨hbefore, hafter⟩ := List.forall_mem_append.1 others
    have hwell : ∀ c ∈ before ++ Cookie.ofSession (keys.issue user now) :: after, c.WellFormed :=
      List.forall_mem_append.2 ⟨fun c hc => (hbefore c hc).1,
        List.forall_mem_cons.2 ⟨keys.wellFormed_issue, fun c hc => (hafter c hc).1⟩⟩
    have htext := Http.Request.printable?_bytes
      (by rw [String.toList_ofList]; exact printable_cookieText hwell)
    have hread := cookieValue?_among hwell (fun c hc => (hbefore c hc).2)
      (trimChars_of_no_blank fun c hc => not_blank_of_mem (mem_tokenChars hc))
    rw [Http.tokenOf?, token?, Http.Request.header?, header, Option.bind_some, htext,
      Option.bind_some, hread]
    rfl
  | bearer noCookie header =>
    have hcookie : (r.header? "cookie").bind (cookieValue? cookieName) = none := by
      cases hheader : r.header? "cookie" with
      | none => rfl
      | some text => exact cookieValue?_eq_none (noCookie text hheader)
    rw [Http.tokenOf?, token?, hcookie, Http.Request.header?, header, Option.bind_some,
      bearerToken?_issue]
    rfl

end SessionKeys

/-- A token that was issued is found as it is where a request carries it. As long as its
    expiry can be held in 64 bits, it tells the user that it was issued for before this time,
    and has expired from then on. -/
theorem session_comes_back (keys : SessionKeys) (now time : Int) {user : Int} {r : Http.Request}
    (huser : int64Min ≤ user ∧ user ≤ int64Max)
    (hexpiry : int64Min ≤ now + keys.lifetime ∧ now + keys.lifetime ≤ int64Max)
    (hr : Session.Carries r (keys.issue user now) keys.lifetime) :
    Http.tokenOf? r = some (keys.issue user now) ∧
      keys.verify (keys.issue user now) time =
        if time < now + keys.lifetime then .ok user else .error .expired := by
  refine ⟨keys.tokenOf?_of_carries hr, ?_⟩
  rw [keys.verify_issue huser now time, keys.expiry_of_fits hexpiry.1 hexpiry.2]
  by_cases htime : time < now + keys.lifetime
  · rw [if_pos htime, if_neg (Int.not_le.2 htime)]
  · rw [if_neg htime, if_pos (Int.not_lt.1 htime)]

theorem session_comes_back_between :
    let keys : SessionKeys := .ofSecret "k" 3600
    let token := keys.issue (-5) 100
    let cookies := ["theme=dark".toList, Session.setPair token 3600, "last=auth=x".toList]
    let r : Http.Request := ⟨"GET", "/api/user/balance",
      [("cookie", bytes (.ofList ("; ".toList.intercalate cookies)))], []⟩
    Http.tokenOf? r = some token ∧ keys.verify token 3699 = .ok (-5) ∧
      keys.verify token 3700 = .error .expired := by
  intro keys token cookies r
  have hothers : ∀ c ∈ ([⟨"theme".toList, "dark".toList⟩, ⟨"last".toList, "auth=x".toList⟩] :
      List Session.Cookie), c.WellFormed ∧ trimChars c.name ≠ Session.cookieName := by
    simp only [List.forall_mem_cons]
    exact ⟨⟨by decide, by decide⟩, ⟨by decide, by decide⟩, fun c hc => absurd hc List.not_mem_nil⟩
  have hr : Session.Carries r token 3600 := .cookie [_] [_] hothers rfl
  have hissued (time : Int) := session_comes_back keys 100 time (by decide) (by decide) hr
  exact ⟨(hissued 0).1, (hissued 3699).2, (hissued 3700).2⟩

end Loyalty
