import Loyalty.Http.Service
import Loyalty.Proofs.Http.Headers
import Loyalty.Proofs.Session.Signed

/-!
# Tokens that are issued are good

A token that was issued is signed (`signed_issue`), and so it is good until it
expires (`verify_issue`). It is the token that is found where it travels: behind
the word `Bearer` in a header (`bearerToken?_bearer`, `printable?_bytes`). For
this it matters that a token has only some characters (`tokenChars`), none of
them blank.
-/

namespace Loyalty

open Loyalty.Text

/-! ## Tokens -/

namespace SessionKeys

variable {keys : SessionKeys} {user now : Int}

/-- The characters of tokens. -/
def tokenChars : List Char := "-.0123456789abcdef".toList

theorem mem_tokenChars {c : Char} (h : c ∈ (keys.issue user now).toList) : c ∈ tokenChars := by
  have hnumber : ("-0123456789".toList : List Char) ⊆ tokenChars := by decide
  have hhex : ("0123456789abcdef".toList : List Char) ⊆ tokenChars := by decide
  have hpoint : '.' ∈ tokenChars := by decide
  simp only [issue, payload, String.toList_ofList, List.mem_append, List.mem_cons] at h
  rcases h with (h | rfl | h) | rfl | h
  · exact hnumber (mem_integerChars h)
  · exact hpoint
  · exact hnumber (mem_integerChars h)
  · exact hpoint
  · exact hhex (mem_toHex h)

theorem not_blank_of_mem {c : Char} (h : c ∈ tokenChars) : isBlank c = false := by
  have hall : tokenChars.all (fun c => !isBlank c) = true := by decide
  simpa using List.all_eq_true.1 hall c h

theorem printable_of_all {cs : List Char}
    (h : cs.all (fun c => 32 ≤ c.toNat && c.toNat < 127) = true) :
    ∀ c ∈ cs, 32 ≤ c.toNat ∧ c.toNat < 127 := by
  simpa using h

theorem printable_of_mem {c : Char} (h : c ∈ "Bearer ".toList ++ tokenChars) :
    32 ≤ c.toNat ∧ c.toNat < 127 :=
  printable_of_all (by decide) c h

theorem names_payload {expiry : Int} (huser : int64Min ≤ user ∧ user ≤ int64Max)
    (hexpiry : int64Min ≤ expiry ∧ expiry ≤ int64Max) :
    Names (payload user expiry) user expiry := by
  -- A number has no point, so the first one stands between the two numbers.
  have hpoint : '.' ∉ integerChars user := fun h => absurd (mem_integerChars h) (by decide)
  exact names_iff.2 ⟨_, _, splitFirst_append hpoint _, integer?_integerChars huser.1 huser.2,
    integer?_integerChars hexpiry.1 hexpiry.2⟩

theorem twoTo_wordBits : twoTo 64 = 18446744073709551616 := by decide

/-- The second at which a token expires is one of 64 bits. -/
theorem expiry_bounds (keys : SessionKeys) (now : Int) :
    int64Min ≤ keys.expiry now ∧ keys.expiry now ≤ int64Max := by
  have hlow := Int.le_bmod (x := now + keys.lifetime) (m := twoTo 64) (by decide)
  have hhigh := Int.bmod_lt (x := now + keys.lifetime) (m := twoTo 64) (by decide)
  rw [twoTo_wordBits] at hlow hhigh
  rw [expiry, twoTo_wordBits, int64Min, int64Max]
  omega

/-- A second that 64 bits can hold is kept as it is. -/
theorem expiry_of_fits (hlow : int64Min ≤ now + keys.lifetime)
    (hhigh : now + keys.lifetime ≤ int64Max) : keys.expiry now = now + keys.lifetime := by
  rw [int64Min] at hlow
  rw [int64Max] at hhigh
  rw [expiry, twoTo_wordBits]
  exact Int.bmod_eq_of_le (by omega) (by omega)

theorem signed_issue (keys : SessionKeys) (user now : Int) :
    keys.Signed (keys.issue user now) (payload user (keys.expiry now))
      (toHex (keys.sign (payload user (keys.expiry now)))) where
  text := String.toList_ofList
  -- A signature has no point, so the last one stands before it.
  last h := absurd (mem_toHex h) (by decide)
  digest := ofHex?_eq_some_iff.1 (ofHex?_toHex _)

/-- A secret of any length keys a digest, so that an expiry that breaks off is all that can
    keep a token from being made. -/
theorem tryIssue_eq (keys : SessionKeys) (user now : Int) :
    keys.tryIssue user now =
      if keys.issues now then .ok (keys.issue user now) else .error .overflow := rfl

/-- A token that was issued is good before it expires, and not any more then. -/
theorem verify_issue (keys : SessionKeys) (huser : int64Min ≤ user ∧ user ≤ int64Max)
    (now time : Int) :
    keys.verify (keys.issue user now) time =
      if keys.expiry now ≤ time then .error .expired else .ok user := by
  rw [verify_of_signed (keys.signed_issue user now),
    readPayload_of_names (names_payload huser (keys.expiry_bounds now))]

end SessionKeys

/-! ## Where tokens travel -/

theorem toList_bearer (token : String) :
    (Session.bearer token).toList = "Bearer ".toList ++ token.toList := by
  rw [Session.bearer, String.toList_append]

/-- A token that has no blanks is found behind the word `Bearer`. -/
theorem Session.bearerToken?_bearer {token : String} (h : ∀ c ∈ token.toList, isBlank c = false) :
    bearerToken? (bearer token) = some token := by
  rw [bearerToken?, toList_bearer, dropStart?_append]
  exact congrArg some (by rw [trimChars_of_no_blank h, String.ofList_toList])

/-- A text of printable characters is what is read from its bytes. -/
theorem Http.Request.printable?_bytes {text : String}
    (h : ∀ c ∈ text.toList, 32 ≤ c.toNat ∧ c.toNat < 127) :
    printable? (bytes text) = some text :=
  printable?_eq_some_iff.2 ⟨rfl, fun c hc => .inr (h c hc)⟩

namespace SessionKeys

variable (keys : SessionKeys) (user now : Int)

theorem printable_bearer : ∀ c ∈ (Session.bearer (keys.issue user now)).toList,
    32 ≤ c.toNat ∧ c.toNat < 127 := by
  intro c hc
  rw [toList_bearer, List.mem_append] at hc
  exact printable_of_mem (List.mem_append.2 (hc.imp_right mem_tokenChars))

/-- A token that was issued is found in a header as which it is sent. -/
theorem bearerToken?_issue :
    (Http.Request.printable? (bytes (Session.bearer (keys.issue user now)))).bind
      Session.bearerToken? = some (keys.issue user now) := by
  rw [Http.Request.printable?_bytes (keys.printable_bearer user now), Option.bind_some,
    Session.bearerToken?_bearer fun c hc => not_blank_of_mem (mem_tokenChars hc)]

end SessionKeys

end Loyalty
