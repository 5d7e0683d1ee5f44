import Loyalty.Proofs.Account.Login
import Loyalty.Proofs.Digest.Keys

/-!
# What opens an account

An account is opened by every password that has the digest of the one it was registered with, and
by no other (`opened_by_digest`). Two passwords of up to 64 bytes have one digest in two cases:

* they are `Alike`: one is the other with NUL characters behind it. They are one key of the digest
  (`keyBlock_bytes_eq_iff`), so that this is so for every salt and any number of rounds;
* they `Collide`: they are two keys, and one digest is made of both. There are more passwords than
  digests, so that for every salt and number of rounds there are some that do (`exists_collide`).
-/

namespace Loyalty

open Loyalty.Text

namespace Password

open Loyalty.Digest

variable {p q : String} {salt : List UInt8} {rounds : Nat}

/-- So many NUL characters. -/
def nuls (n : Nat) : String := .ofList (List.replicate n '\x00')

/-- One password is the other with NUL characters behind it. -/
def Alike (p q : String) : Prop := ∃ n, p = q ++ nuls n ∨ q = p ++ nuls n

/-- Two passwords are different keys, and one digest is made of both. -/
structure Collide (p q : String) (salt : List UInt8) (rounds : Nat) : Prop where
  keys : keyBlock (bytes p) ≠ keyBlock (bytes q)
  digests : derive p salt rounds = derive q salt rounds

/-- The second password opens what the first one was stored for. -/
def Opens (p q : String) (salt : List UInt8) (rounds : Nat) : Prop :=
  Alike p q ∨ Collide p q salt rounds

/-! ## Passwords as keys -/

theorem bytes_nuls (n : Nat) : bytes (nuls n) = List.replicate n 0 := by
  have hsmall : ∀ c ∈ List.replicate n '\x00', c.toNat < 128 := by
    intro c hc
    rw [List.eq_of_mem_replicate hc]
    decide
  rw [nuls, bytes_ofList hsmall, List.map_replicate]
  rfl

theorem zerosBehind_bytes_iff : ZerosBehind (bytes p) (bytes q) ↔ ∃ n, p = q ++ nuls n := by
  simp only [ZerosBehind, ← bytes_nuls, ← bytes_append, bytes_inj]

/-- Passwords that have room in a block are one key exactly if they are alike. -/
theorem keyBlock_bytes_eq_iff (hp : p.utf8ByteSize ≤ 64) (hq : q.utf8ByteSize ≤ 64) :
    keyBlock (bytes p) = keyBlock (bytes q) ↔ Alike p q := by
  rw [← length_bytes] at hp hq
  rw [keyBlock_eq_iff hp hq, zerosBehind_bytes_iff, zerosBehind_bytes_iff, ← exists_or]
  rfl

theorem derive_eq_iff (hp : p.utf8ByteSize ≤ 64) (hq : q.utf8ByteSize ≤ 64) :
    derive p salt rounds = derive q salt rounds ↔ Opens p q salt rounds := by
  constructor
  · intro h
    by_cases hkeys : keyBlock (bytes p) = keyBlock (bytes q)
    · exact .inl ((keyBlock_bytes_eq_iff hp hq).1 hkeys)
    · exact .inr ⟨hkeys, h⟩
  · rintro (halike | hcollide)
    · exact pbkdf2_congr ((keyBlock_bytes_eq_iff hp hq).2 halike) salt rounds
    · exact hcollide.digests

/-- For every salt and number of rounds, two passwords of 64 bytes collide. -/
theorem exists_collide (salt : List UInt8) (rounds : Nat) :
    ∃ p q : String, p.utf8ByteSize = 64 ∧ q.utf8ByteSize = 64 ∧ Collide p q salt rounds := by
  obtain ⟨cs, ds, hne, hcs, hds, hsmall, hdigest⟩ := exists_collision
    (fun cs => derive (.ofList cs) salt rounds) fun cs => length_pbkdf2 _ _ _
  obtain ⟨hcsSmall, hdsSmall⟩ := List.forall_mem_append.1 hsmall
  have hsize {es : List Char} (hes : es.length = 64) (h : ∀ c ∈ es, c.toNat < 128) :
      (bytes (.ofList es)).length = 64 := by
    rw [bytes_ofList h, List.length_map, hes]
  have hkey {es : List Char} (hes : es.length = 64) (h : ∀ c ∈ es, c.toNat < 128) :
      keyBlock (bytes (.ofList es)) = bytes (.ofList es) := by
    rw [keyBlock_of_le (hsize hes h).le, hsize hes h]
    simp
  refine ⟨.ofList cs, .ofList ds, ?_, ?_, ?_, hdigest⟩
  · rw [← length_bytes, hsize hcs hcsSmall]
  · rw [← length_bytes, hsize hds hdsSmall]
  · rw [hkey hcs hcsSmall, hkey hds hdsSmall, ne_eq, bytes_inj]
    exact fun h => hne (String.ofList_injective h)

theorem verify_hash_iff (hp : p.utf8ByteSize ≤ 64) (hq : q.utf8ByteSize ≤ 64)
    (hrounds : rounds ≤ word32Max) {known : Bool} :
    verify q (hash p salt rounds) = .ok known ↔ (known = true ↔ Opens p q salt rounds) := by
  rw [(holds_hash p salt hrounds).answer_iff, ← derive_eq_iff hp hq]
  simp only [derive, pbkdf2_max]

end Password

/-! ## Accounts -/

namespace Store

open Password

variable {s : Store} {user : User} {login text p q : String} {salt : List UInt8} {rounds : Nat}

/-- Whoever registered is let in with every password that is taken for the stored one, whatever
    has happened since, and with no other. -/
theorem authenticate_of_register {known : Bool} (hs : s.Reachable)
    (h : (s.register rounds salt login p).1 = .ok user) (later : List Event)
    (htext : trim text = trim login) (hq : q ≠ "")
    (hverify : verify q (hash p salt rounds) = .ok known) :
    ((s.register rounds salt login p).2.happenAll later).authenticate text q =
      if known then .ok user else fails .wrongCredentials := by
  obtain ⟨hread, hhash, -⟩ := register_eq_ok h
  obtain ⟨hlogin, hnonempty, hlong, -⟩ := Credentials.read_eq_ok_iff.1 hread
  have hread' : Credentials.read text q = .ok user.login :=
    Credentials.read_eq_ok_iff.2 ⟨htext.trans hlogin, hnonempty, hlong, by simpa using hq⟩
  obtain ⟨hdistinct, hkept⟩ := distinct_of_register hs h later
  exact authenticate_of_verify hdistinct hkept hread' (hhash ▸ hverify)

/-- Of the passwords of one to 64 bytes, exactly those open an account that are alike to the one
    it was registered with, or collide with it: they are taken for the stored one, and with them
    the user is let in, whatever has happened since. All others are taken for wrong ones. For every
    salt and number of rounds, some passwords do collide. -/
theorem opened_by_digest (hp : p.utf8ByteSize ≤ 64) (hq : q.utf8ByteSize ≤ 64) (hne : q ≠ "")
    (salt : List UInt8) (hrounds : rounds ≤ word32Max) :
    (verify q (hash p salt rounds) = .ok true ↔ Opens p q salt rounds) ∧
    (verify q (hash p salt rounds) = .ok false ↔ ¬ Opens p q salt rounds) ∧
    (∀ history login user later text,
      ((empty.happenAll history).register rounds salt login p).1 = .ok user →
      trim text = trim login →
      let t := ((empty.happenAll history).register rounds salt login p).2.happenAll later
      (Opens p q salt rounds → t.authenticate text q = .ok user) ∧
        (¬ Opens p q salt rounds → t.authenticate text q = fails .wrongCredentials)) ∧
    ∃ one other : String, one.utf8ByteSize = 64 ∧ other.utf8ByteSize = 64 ∧
      Collide one other salt rounds := by
  have htrue : verify q (hash p salt rounds) = .ok true ↔ Opens p q salt rounds := by
    rw [verify_hash_iff hp hq hrounds]
    simp
  have hfalse : verify q (hash p salt rounds) = .ok false ↔ ¬ Opens p q salt rounds := by
    rw [verify_hash_iff hp hq hrounds]
    simp
  refine ⟨htrue, hfalse, fun history login user later text hregister htext => ?_,
    exists_collide salt rounds⟩
  have hs : (empty.happenAll history).Reachable := reachable_happenAll reachable_empty history
  exact ⟨fun h => authenticate_of_register hs hregister later htext hne (htrue.2 h),
    fun h => authenticate_of_register hs hregister later htext hne (hfalse.2 h)⟩

/-- Ann is let in with a NUL character behind her password, and not with another letter in it. -/
theorem opened_by_digest_letter :
    let salt : List UInt8 := List.replicate 16 7
    let t := (empty.register 1 salt " ann" "pw").2.happenAll [.deed (.register 1 [] "bob" "pv")]
    t.authenticate "ann" "pw\x00" = .ok ⟨1, "ann", hash "pw" salt 1⟩ ∧
      t.authenticate "ann" "pv" = fails .wrongCredentials := by
  intro salt t
  have hopens : Opens "pw" "pw\x00" salt 1 := .inl ⟨1, .inr rfl⟩
  have hcloses : ¬ Opens "pw" "pv" salt 1 := by
    rw [← derive_eq_iff (by decide) (by decide)]
    decide +kernel
  obtain ⟨-, -, hnul, -⟩ := opened_by_digest (p := "pw") (q := "pw\x00") (by decide) (by decide)
    (by decide) salt (by decide : 1 ≤ word32Max)
  obtain ⟨-, -, hletter, -⟩ := opened_by_digest (p := "pw") (q := "pv") (by decide) (by decide)
    (by decide) salt (by decide : 1 ≤ word32Max)
  have hregister : (empty.register 1 salt " ann" "pw").1 = .ok ⟨1, "ann", hash "pw" salt 1⟩ := rfl
  have htext : trim "ann" = trim " ann" := by decide
  exact ⟨(hnul [] " ann" _ _ "ann" hregister htext).1 hopens,
    (hletter [] " ann" _ _ "ann" hregister htext).2 hcloses⟩

/-- A password that is not the registered one opens an account. -/
theorem opened_by_another :
    let salt : List UInt8 := List.replicate 16 7
    let t := (empty.register 1 salt "ann" "pw").2
    "pw\x00" ≠ "pw" ∧ "pw".utf8ByteSize = 2 ∧ "pw\x00".utf8ByteSize = 3 ∧
      verify "pw\x00" (hash "pw" salt 1) = .ok true ∧
      t.authenticate "ann" "pw\x00" = .ok ⟨1, "ann", hash "pw" salt 1⟩ := by
  intro salt t
  have hverify : verify "pw\x00" (hash "pw" salt 1) = .ok true :=
    (verify_hash_iff (by decide) (by decide) (by decide)).2
      (iff_of_true rfl (.inl ⟨1, .inr rfl⟩))
  have hregister : (empty.register 1 salt "ann" "pw").1 = .ok ⟨1, "ann", hash "pw" salt 1⟩ := rfl
  have hopened : t.authenticate "ann" "pw\x00" = .ok ⟨1, "ann", hash "pw" salt 1⟩ :=
    authenticate_of_register reachable_empty hregister [] rfl (by decide) hverify
  exact ⟨by decide, by decide, by decide, hverify, hopened⟩

end Store
end Loyalty
