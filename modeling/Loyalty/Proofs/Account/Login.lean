import Loyalty.Account.Access
import Loyalty.Proofs.Account.Passwords
import Loyalty.Proofs.Ledger.Events

/-!
# Users come back

Whoever registered is let in again with the same password, under any text that has the same
login between its blanks, whatever has happened to the store in between
(`registered_for_good`). Three things are needed for this: the stored text tells the password
again (`Password.verify_hash`), no user is taken away or changed (`Keeps`), and no two users
have one login (`Distinct`), so that it is this user who is found.
-/

namespace Loyalty

open Loyalty.Text

variable {login password name text : String}

/-- A login is taken without its blanks, if there is one, not too long, and a password. -/
theorem Credentials.read_eq_ok_iff :
    read login password = .ok name ↔ trim login = name ∧ name.isEmpty = false ∧
      name.utf8ByteSize ≤ maxLoginBytes ∧ password.isEmpty = false := by
  rw [read]
  constructor
  · intro h
    split_ifs at h with hlogin hlong hpassword
    cases h
    exact ⟨rfl, by simpa using hlogin, Nat.le_of_not_lt hlong, by simpa using hpassword⟩
  · rintro ⟨rfl, hlogin, hlong, hpassword⟩
    simp [hlogin, Nat.not_lt.2 hlong, hpassword]

namespace Store

variable {s : Store} {user : User} {rounds : Nat} {salt : List UInt8}

/-- Who is registered is a user, stored with the login and the password. -/
theorem register_eq_ok (h : (s.register rounds salt login password).1 = .ok user) :
    Credentials.read login password = .ok user.login ∧
      user.passwordHash = Password.hash password salt rounds ∧
      user ∈ (s.register rounds salt login password).2.users := by
  rw [register] at h ⊢
  cases hread : Credentials.read login password with
  | error cause =>
    rw [hread] at h
    cases h
  | ok name =>
    rw [hread] at h
    dsimp only at h ⊢
    rcases s.createUser_spec name (Password.hash password salt rounds) with ⟨-, e⟩ | ⟨-, e⟩ <;>
      rw [e] at h ⊢ <;> cases h
    exact ⟨rfl, rfl, List.mem_append_right _ (List.mem_singleton_self _)⟩

/-- The stored password alone decides who is let in under the login of a user. -/
theorem authenticate_of_verify {known : Bool} (hs : s.Distinct) (huser : user ∈ s.users)
    (hread : Credentials.read text password = .ok user.login)
    (hverify : Password.verify password user.passwordHash = .ok known) :
    s.authenticate text password = if known then .ok user else fails .wrongCredentials := by
  simp only [authenticate, hread, hs.findUser?_of_mem huser, hverify]
  cases known <;> rfl

/-- A user whose password was stored is let in with it. -/
theorem authenticate_of_mem (hs : s.Distinct) (huser : user ∈ s.users)
    (hrounds : rounds ≤ word32Max)
    (hhash : user.passwordHash = Password.hash password salt rounds)
    (hread : Credentials.read text password = .ok user.login) :
    s.authenticate text password = .ok user := by
  have hverify : Password.verify password user.passwordHash = .ok true :=
    hhash ▸ Password.verify_hash password salt hrounds
  rw [authenticate_of_verify hs huser hread hverify, if_pos rfl]

/-- A login that a user has is not given out again. -/
theorem register_of_mem (huser : user ∈ s.users)
    (hread : Credentials.read text password = .ok user.login) :
    s.register rounds salt text password = (fails (.loginTaken user.login), s) := by
  simp only [register, hread]
  rcases s.createUser_spec user.login (Password.hash password salt rounds) with
    ⟨hfresh, -⟩ | ⟨-, e⟩
  · exact absurd rfl (hfresh user huser)
  · exact e

/-- Nobody is let in under a login that no user has. -/
theorem authenticate_of_unknown (hunknown : ∀ user ∈ s.users, user.login ≠ name)
    (hread : Credentials.read text password = .ok name) :
    s.authenticate text password = fails .wrongCredentials := by
  have hnone : s.findUser? name = none := by
    simpa [findUser?, List.find?_eq_none] using hunknown
  simp only [authenticate, hread, hnone]

/-- Whoever registers stays a user, and the only one with this login. -/
theorem distinct_of_register (hs : s.Reachable)
    (h : (s.register rounds salt login password).1 = .ok user) (later : List Event) :
    ((s.register rounds salt login password).2.happenAll later).Distinct ∧
      user ∈ ((s.register rounds salt login password).2.happenAll later).users := by
  have hregistered : (s.register rounds salt login password).2.Reachable :=
    hs.served (perform_served s (.register rounds salt login password))
  exact ⟨(reachable_happenAll hregistered later).distinct,
    (keeps_happenAll _ later).users.subset (register_eq_ok h).2.2⟩

/-- After any history, whoever registers is let in from then on, whatever happens later and
    however many rounds are then made for new passwords: with the same password and any text
    that has the same login between its blanks. Nobody is registered under such a text
    again. A login that nothing in the history created lets nobody in. -/
theorem registered_for_good (history : List Event) :
    let s := empty.happenAll history
    (∀ rounds salt login password user later text, rounds ≤ word32Max →
      (s.register rounds salt login password).1 = .ok user → trim text = trim login →
      let t := (s.register rounds salt login password).2.happenAll later
      t.authenticate text password = .ok user ∧
        ∀ rounds salt password, password ≠ "" →
          t.register rounds salt text password = (fails (.loginTaken (trim login)), t)) ∧
    ∀ text password login, Credentials.read text password = .ok login →
      (∀ event ∈ history, ¬ event.Creates login) →
      s.authenticate text password = fails .wrongCredentials := by
  intro s
  have hs : s.Reachable := reachable_happenAll reachable_empty history
  refine ⟨?_, ?_⟩
  · intro rounds salt login password user later text hrounds hregister htext t
    obtain ⟨hread, hhash, -⟩ := register_eq_ok hregister
    obtain ⟨hlogin, hnonempty, hlong, hpassword⟩ := Credentials.read_eq_ok_iff.1 hread
    have hread' {password : String} (h : password.isEmpty = false) :
        Credentials.read text password = .ok user.login :=
      Credentials.read_eq_ok_iff.2 ⟨htext.trans hlogin, hnonempty, hlong, h⟩
    obtain ⟨hdistinct, hkept⟩ := distinct_of_register hs hregister later
    refine ⟨authenticate_of_mem hdistinct hkept hrounds hhash (hread' hpassword), ?_⟩
    intro rounds salt password hpassword
    rw [hlogin]
    exact register_of_mem hkept (hread' (by simpa using hpassword))
  · intro text password login hread hnever
    refine authenticate_of_unknown ?_ hread
    rintro user huser rfl
    rcases creates_of_mem_users huser with hnone | ⟨event, hevent, hcreates⟩
    · exact absurd hnone List.not_mem_nil
    · exact hnever event hevent hcreates

/-- Ann registers after Bob. Then somebody else tries to take the login, in two ways. -/
theorem registered_for_good_blanks :
    let s := empty.happenAll [.deed (.register 1 [] "bob" "pw")]
    let ann : User := ⟨2, "ann", Password.hash "secret" [7] 3⟩
    let t := (s.register 3 [7] " ann" "secret").2.happenAll
      [.operation (.createUser "ann" "x"), .deed (.register 9 [] "ann" "mine")]
    t.authenticate "ann\n" "secret" = .ok ann ∧
      t.register 9 [] "ann\n" "mine" = (fails (.loginTaken "ann"), t) ∧
      s.authenticate "ann" "secret" = fails .wrongCredentials := by
  intro s ann t
  obtain ⟨hkept, hunknown⟩ := registered_for_good [.deed (.register 1 [] "bob" "pw")]
  obtain ⟨hauth, htaken⟩ := hkept 3 [7] " ann" "secret" ann _ "ann\n" (by decide) rfl rfl
  refine ⟨hauth, htaken 9 [] "mine" (by decide), hunknown "ann" "secret" "ann" rfl ?_⟩
  intro event hevent hcreates
  obtain rfl := List.mem_singleton.1 hevent
  rcases hcreates with _ | ⟨_, _, hread⟩
  have hbob : Credentials.read "bob" "pw" = .ok "bob" := rfl
  exact absurd (Except.ok.inj (hbob.symm.trans hread)) (by decide)

end Store
end Loyalty
