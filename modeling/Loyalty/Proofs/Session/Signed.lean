import Loyalty.Digest.Hmac
import Loyalty.Proofs.Digest.Comparing
import Loyalty.Proofs.Text.Read
import Loyalty.Session.Token

/-!
# Which tokens are good

Anybody can send any text as a token. It is taken only if it is signed: the digest of what stands
before its last point stands behind it, in digits of either case (`SessionKeys.Signed`). Only then
is anything read from it, a user and an expiry with the first point between them
(`SessionKeys.Names`).

* `verify_eq_ok_iff` and `verify_eq_error_iff`: when a token is good, and what is reported
  otherwise;
* `length_signature`, `eq_of_starts`: nothing can be taken away from a good token or added to it;
* `good_iff_signed`: all of this together.
-/

namespace Loyalty.SessionKeys

open Loyalty.Text

variable {keys : SessionKeys} {token other : String} {time : Int}
  {payload signature : List Char} {user expiry : Int} {fault : TokenFault}

/-- The token is cut at its last point. -/
structure Cut (token : String) (payload signature : List Char) : Prop where
  text : token.toList = payload ++ '.' :: signature
  last : '.' ∉ signature

/-- The token is signed: behind its last point stand the digits of the digest of what stands before
    it, in either case. -/
structure Signed (keys : SessionKeys) (token : String) (payload signature : List Char) : Prop
    extends Cut token payload signature where
  digest : signature.map Char.toLower = toHex (keys.sign payload)

/-- The signed text is a user and an expiry, integers of 64 bits, cut at its first point. -/
structure Names (payload : List Char) (user expiry : Int) : Prop where
  parts : ∃ first second, payload = first ++ '.' :: second ∧ '.' ∉ first ∧
    Spells first user ∧ Spells second expiry
  user_fits : int64Min ≤ user ∧ user ≤ int64Max
  expiry_fits : int64Min ≤ expiry ∧ expiry ≤ int64Max

/-- What is wrong with a token. -/
inductive Rejects (keys : SessionKeys) (token : String) (time : Int) : TokenFault → Prop
  | unsigned (h : '.' ∉ token.toList) : Rejects keys token time .malformed
  | undigested {payload signature : List Char} (cut : Cut token payload signature)
    (h : ∀ bs, signature.map Char.toLower ≠ toHex bs) :
    Rejects keys token time .malformedSignature
  | forged {payload signature : List Char} {bs : List UInt8} (cut : Cut token payload signature)
    (h : signature.map Char.toLower = toHex bs) (ne : bs ≠ keys.sign payload) :
    Rejects keys token time .wrongSignature
  | unreadable {payload signature : List Char} (signed : keys.Signed token payload signature)
    (h : ∀ user expiry, ¬ Names payload user expiry) : Rejects keys token time .malformed
  | expired {payload signature : List Char} {user expiry : Int}
    (signed : keys.Signed token payload signature) (names : Names payload user expiry)
    (h : expiry ≤ time) : Rejects keys token time .expired

/-! ## What is signed -/

theorem names_iff : Names payload user expiry ↔ ∃ first second,
    splitFirst '.' payload = some (first, second) ∧ int64? first = some user ∧
      int64? second = some expiry := by
  simp only [splitFirst_eq_some_iff, int64?_eq_some_iff]
  constructor
  · rintro ⟨⟨first, second, htext, hpoint, hfirst, hsecond⟩, huser, hexpiry⟩
    exact ⟨first, second, ⟨htext, hpoint⟩, ⟨hfirst, huser⟩, hsecond, hexpiry⟩
  · rintro ⟨first, second, ⟨htext, hpoint⟩, ⟨hfirst, huser⟩, hsecond, hexpiry⟩
    exact ⟨⟨first, second, htext, hpoint, hfirst, hsecond⟩, huser, hexpiry⟩

theorem readPayload_of_names (h : Names payload user expiry) (time : Int) :
    readPayload payload time = if expiry ≤ time then .error .expired else .ok user := by
  obtain ⟨first, second, hsplit, hfirst, hsecond⟩ := names_iff.1 h
  simp only [readPayload, hsplit, hfirst, hsecond]

theorem readPayload_of_not_names (h : ∀ user expiry, ¬ Names payload user expiry) (time : Int) :
    readPayload payload time = .error .malformed := by
  rw [readPayload]
  split
  next => rfl
  next first second hsplit =>
    split
    next user expiry hfirst hsecond =>
      exact absurd (names_iff.2 ⟨first, second, hsplit, hfirst, hsecond⟩) (h user expiry)
    next => rfl

/-- A signed text names one user and one expiry. -/
theorem Names.unique {user' expiry' : Int} (h : Names payload user expiry)
    (h' : Names payload user' expiry') : user' = user ∧ expiry' = expiry := by
  obtain ⟨first, second, hsplit, hfirst, hsecond⟩ := names_iff.1 h
  obtain ⟨first', second', hsplit', hfirst', hsecond'⟩ := names_iff.1 h'
  cases hsplit.symm.trans hsplit'
  exact ⟨Option.some.inj (hfirst'.symm.trans hfirst), Option.some.inj (hsecond'.symm.trans hsecond)⟩

/-! ## Verifying -/

theorem Cut.splitLast (h : Cut token payload signature) :
    splitLast '.' token.toList = some (payload, signature) := by
  rw [h.text, splitLast_append payload h.last]

theorem verify_of_signed (h : keys.Signed token payload signature) (time : Int) :
    keys.verify token time = readPayload payload time := by
  simp only [verify, h.splitLast, ofHex?_eq_some_iff.2 h.digest, Digest.sameBytes_iff.2 rfl,
    if_true]

theorem verify_of_forged {bs : List UInt8} (hcut : Cut token payload signature)
    (h : signature.map Char.toLower = toHex bs) (hne : bs ≠ keys.sign payload) (time : Int) :
    keys.verify token time = .error .wrongSignature := by
  have hdiffer : ¬ Digest.sameBytes (keys.sign payload) bs = true := fun hsame =>
    hne (Digest.sameBytes_iff.1 hsame).symm
  simp only [verify, hcut.splitLast, ofHex?_eq_some_iff.2 h, if_neg hdiffer]

theorem verify_of_undigested (hcut : Cut token payload signature)
    (h : ∀ bs, signature.map Char.toLower ≠ toHex bs) (time : Int) :
    keys.verify token time = .error .malformedSignature := by
  have hnone : ofHex? signature = none := by
    rw [Option.eq_none_iff_forall_ne_some]
    exact fun bs hbs => h bs (ofHex?_eq_some_iff.1 hbs)
  simp only [verify, hcut.splitLast, hnone]

theorem verify_of_unsigned (h : '.' ∉ token.toList) (time : Int) :
    keys.verify token time = .error .malformed := by
  simp only [verify, splitLast_of_not_mem h]

/-- Something is wrong with a token, or it is good. -/
theorem rejects_or_signed (keys : SessionKeys) (token : String) (time : Int) :
    (∃ fault, keys.Rejects token time fault) ∨
      ∃ payload signature user expiry, keys.Signed token payload signature ∧
        Names payload user expiry ∧ time < expiry := by
  by_cases hpoint : '.' ∈ token.toList
  case neg => exact .inl ⟨_, .unsigned hpoint⟩
  obtain ⟨payload, signature, htext, hlast⟩ := exists_last_of_mem hpoint
  have hcut : Cut token payload signature := ⟨htext, hlast⟩
  by_cases hdigits : ∃ bs, signature.map Char.toLower = toHex bs
  case neg => exact .inl ⟨_, .undigested hcut (not_exists.1 hdigits)⟩
  obtain ⟨bs, hbs⟩ := hdigits
  by_cases hsame : bs = keys.sign payload
  case neg => exact .inl ⟨_, .forged hcut hbs hsame⟩
  have hsigned : keys.Signed token payload signature := ⟨hcut, hsame ▸ hbs⟩
  by_cases hnames : ∃ user expiry, Names payload user expiry
  case neg => exact .inl ⟨_, .unreadable hsigned (by simpa using hnames)⟩
  obtain ⟨user, expiry, hnames⟩ := hnames
  rcases Int.lt_or_le time expiry with hgood | hexpired
  · exact .inr ⟨payload, signature, user, expiry, hsigned, hnames, hgood⟩
  · exact .inl ⟨_, .expired hsigned hnames hexpired⟩

theorem verify_of_rejects (h : keys.Rejects token time fault) :
    keys.verify token time = .error fault := by
  cases h with
  | unsigned h => exact verify_of_unsigned h time
  | undigested hcut h => exact verify_of_undigested hcut h time
  | forged hcut h hne => exact verify_of_forged hcut h hne time
  | unreadable hsigned h => rw [verify_of_signed hsigned, readPayload_of_not_names h]
  | expired hsigned hnames h => rw [verify_of_signed hsigned, readPayload_of_names hnames, if_pos h]

theorem verify_of_good (hsigned : keys.Signed token payload signature)
    (hnames : Names payload user expiry) (h : time < expiry) :
    keys.verify token time = .ok user := by
  rw [verify_of_signed hsigned, readPayload_of_names hnames, if_neg (Int.not_le.2 h)]

theorem verify_eq_ok_iff : keys.verify token time = .ok user ↔
    ∃ payload signature expiry, keys.Signed token payload signature ∧
      Names payload user expiry ∧ time < expiry := by
  constructor
  · intro h
    rcases keys.rejects_or_signed token time with
      ⟨fault, hrejects⟩ | ⟨payload, signature, user', expiry, hsigned, hnames, hgood⟩
    · rw [verify_of_rejects hrejects] at h
      cases h
    · rw [verify_of_good hsigned hnames hgood] at h
      cases h
      exact ⟨payload, signature, expiry, hsigned, hnames, hgood⟩
  · rintro ⟨payload, signature, expiry, hsigned, hnames, hgood⟩
    exact verify_of_good hsigned hnames hgood

theorem verify_eq_error_iff :
    keys.verify token time = .error fault ↔ keys.Rejects token time fault := by
  refine ⟨fun h => ?_, verify_of_rejects⟩
  rcases keys.rejects_or_signed token time with
    ⟨fault', hrejects⟩ | ⟨payload, signature, user, expiry, hsigned, hnames, hgood⟩
  · rw [verify_of_rejects hrejects] at h
    cases h
    exact hrejects
  · rw [verify_of_good hsigned hnames hgood] at h
    cases h

/-! ## Good tokens compared -/

/-- A token is cut in one way only. -/
theorem Cut.unique {payload' signature' : List Char} (h : Cut token payload signature)
    (h' : Cut token payload' signature') : payload' = payload ∧ signature' = signature := by
  have hsplit := h.splitLast
  rw [h'.splitLast, Option.some.injEq, Prod.mk.injEq] at hsplit
  exact hsplit

theorem Signed.length_signature (h : keys.Signed token payload signature) :
    signature.length = 64 := by
  have hlength := congrArg List.length h.digest
  rwa [List.length_map, length_toHex, sign, Digest.length_hmac] at hlength

/-- No good token is the beginning of another text that is one. -/
theorem eq_of_starts {payload' signature' : List Char} {user' expiry' : Int}
    (h : keys.Signed token payload signature) (hnames : Names payload user expiry)
    (h' : keys.Signed other payload' signature') (hnames' : Names payload' user' expiry')
    (hstarts : token.toList <+: other.toList) : other = token := by
  obtain ⟨rest, hrest⟩ := hstarts
  obtain ⟨first, second, hpayload, hfirst, -, hsecond⟩ := hnames.parts
  obtain ⟨first', second', hpayload', hfirst', -, hsecond'⟩ := hnames'.parts
  -- Both texts have three parts, and the first two end at the same points.
  rw [h.text, h'.text, hpayload, hpayload'] at hrest
  simp only [List.append_assoc, List.cons_append] at hrest
  obtain ⟨rfl, hothers⟩ := append_cons_inj_of_first hfirst hfirst' hrest
  obtain ⟨rfl, hsignature⟩ :=
    append_cons_inj_of_first hsecond.not_mem_point hsecond'.not_mem_point hothers
  -- The third ones are of the same length.
  have hnil : rest = [] := by
    have hlength := congrArg List.length hsignature
    rw [List.length_append, h.length_signature, h'.length_signature] at hlength
    exact List.eq_nil_of_length_eq_zero (by omega)
  rw [← String.toList_inj, h.text, h'.text, hpayload, hpayload', ← hsignature, hnil,
    List.append_nil]

/-- A signature may be in capitals. -/
theorem signed_capitals (keys : SessionKeys) (payload : List Char) :
    keys.Signed (.ofList (payload ++ '.' :: (toHex (keys.sign payload)).map Char.toUpper)) payload
      ((toHex (keys.sign payload)).map Char.toUpper) := by
  have hall : "0123456789abcdef".toList.all
      (fun c => c.toUpper.toLower = c ∧ c.toUpper ≠ '.') = true := by decide
  have hdigits {c : Char} (hc : c ∈ toHex (keys.sign payload)) :
      c.toUpper.toLower = c ∧ c.toUpper ≠ '.' :=
    of_decide_eq_true (List.all_eq_true.1 hall c (mem_toHex hc))
  refine ⟨⟨String.toList_ofList, ?_⟩, ?_⟩
  · rw [List.mem_map]
    rintro ⟨c, hc, hpoint⟩
    exact (hdigits hc).2 hpoint
  · rw [List.map_map]
    exact (List.map_congr_left fun c hc => (hdigits hc).1).trans (List.map_id _)

/-- A text is taken as the token of a user exactly if it is signed and names that user and a time
    still to come; otherwise what is wrong with it is reported. A token that is taken is taken at
    every earlier time too, and its signature has 64 digits. Another one that begins with it is
    taken at no time, and another one of the same signed text is the same but for the case of the
    digits. -/
theorem good_iff_signed (keys : SessionKeys) (token : String) (time : Int) :
    (∀ user, keys.verify token time = .ok user ↔
      ∃ payload signature expiry, keys.Signed token payload signature ∧
        Names payload user expiry ∧ time < expiry) ∧
    (∀ fault, keys.verify token time = .error fault ↔ keys.Rejects token time fault) ∧
    ∀ user, keys.verify token time = .ok user →
      (∀ earlier ≤ time, keys.verify token earlier = .ok user) ∧
      (∀ payload signature, Cut token payload signature → signature.length = 64) ∧
      ∀ other when user', keys.verify other when = .ok user' →
        (token.toList <+: other.toList → other = token) ∧
        ∀ payload signature signature', Cut token payload signature →
          Cut other payload signature' →
          signature'.map Char.toLower = signature.map Char.toLower ∧ user' = user := by
  refine ⟨fun user => verify_eq_ok_iff, fun fault => verify_eq_error_iff, fun user h => ?_⟩
  obtain ⟨payload, signature, expiry, hsigned, hnames, hgood⟩ := verify_eq_ok_iff.1 h
  refine ⟨fun earlier hearlier => ?_, fun payload' signature' hcut => ?_,
    fun other when user' h' => ?_⟩
  · exact verify_of_good hsigned hnames (Int.lt_of_le_of_lt hearlier hgood)
  · obtain ⟨rfl, rfl⟩ := hsigned.toCut.unique hcut
    exact hsigned.length_signature
  · obtain ⟨payload', signature', expiry', hsigned', hnames', -⟩ := verify_eq_ok_iff.1 h'
    refine ⟨eq_of_starts hsigned hnames hsigned' hnames', ?_⟩
    intro text digits digits' hcut hcut'
    obtain ⟨rfl, rfl⟩ := hsigned.toCut.unique hcut
    obtain ⟨rfl, rfl⟩ := hsigned'.toCut.unique hcut'
    exact ⟨hsigned'.digest.trans hsigned.digest.symm, (hnames.unique hnames').1⟩

/-- A signature in capitals, of an expiry with a sign. Nothing that begins with this token is
    another one. -/
theorem good_iff_signed_capitals :
    let keys := ofSecret "k" 3600
    let payload := "1.+99".toList
    let token : String := .ofList (payload ++ '.' :: (toHex (keys.sign payload)).map Char.toUpper)
    keys.verify token 98 = .ok 1 ∧ keys.verify token 99 = .error .expired ∧
      ∀ other, token.toList <+: other.toList → other ≠ token →
        ∀ when user, keys.verify other when ≠ .ok user := by
  -- Which keys these are does not matter, and no digest need be computed.
  generalize ofSecret "k" 3600 = keys
  intro _ payload token
  have hsigned : keys.Signed token payload ((toHex (keys.sign payload)).map Char.toUpper) :=
    signed_capitals keys payload
  have hnames : Names payload 1 99 :=
    names_iff.2 ⟨['1'], ['+', '9', '9'], by decide, by decide, by decide⟩
  obtain ⟨hok, -, hothers⟩ := good_iff_signed keys token 98
  have hgood : keys.verify token 98 = .ok 1 := (hok 1).2 ⟨_, _, 99, hsigned, hnames, by decide⟩
  obtain ⟨-, hfault, -⟩ := good_iff_signed keys token 99
  refine ⟨hgood, (hfault .expired).2 (.expired hsigned hnames (by decide)), ?_⟩
  intro other hstarts hne when user h
  obtain ⟨-, -, hlonger⟩ := hothers 1 hgood
  exact hne ((hlonger other when user h).1 hstarts)

end Loyalty.SessionKeys
