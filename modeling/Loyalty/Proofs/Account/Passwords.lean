import Loyalty.Account.Password
import Loyalty.Proofs.Digest.Comparing
import Loyalty.Proofs.Digest.Keys
import Loyalty.Proofs.Text.Read

/-!
# Which passwords are known

A stored text tells a number of rounds, a salt and a digest (`Holds`). A password is known from it
if the digest that is made of the password, with this salt and these rounds, is the one that is
told. All of its bytes are compared, and it may have no others.

* `verify_eq_ok_iff`: what is answered for any password and any text;
* `verify_hash`: a password that was stored is known again;
* `known_by_digest`: no password is known from a digest that has more bytes than are made of it,
  or fewer, or none.
-/

namespace Loyalty.Password

open Loyalty.Text

/-- The text is the name of the scheme, a number of rounds that has 32 bits and is not zero, a salt
    and a digest in base 64, with a dollar sign between each two of them. -/
structure Holds (stored : String) (rounds : Nat) (salt digest : List UInt8) : Prop where
  text : ∃ number, Tells number rounds ∧ stored.toList =
    scheme ++ '$' :: number ++ '$' :: Base64.encode salt ++ '$' :: Base64.encode digest
  positive : 0 < rounds
  fits : rounds ≤ word32Max

variable {password stored : String} {rounds : Nat} {salt digest : List UInt8} {known : Bool}

/-! ## Stored texts -/

/-- No piece of a stored text has the dollar sign that stands between them. -/
theorem Holds.splitAll (h : Holds stored rounds salt digest) :
    ∃ number, Tells number rounds ∧ splitAll '$' stored.toList =
      [scheme, number, Base64.encode salt, Base64.encode digest] := by
  obtain ⟨number, hnumber, htext⟩ := h.text
  have hscheme : '$' ∉ scheme := by decide
  have hrounds : '$' ∉ number := fun h => absurd (hnumber.code_of_mem h).1 (by decide)
  have hencode (bs : List UInt8) : '$' ∉ Base64.encode bs :=
    fun h => absurd (Base64.mem_encode h) (by decide)
  refine ⟨number, hnumber, ?_⟩
  simp only [htext, List.append_assoc, List.cons_append]
  rw [splitAll_append hscheme, splitAll_append hrounds, splitAll_append (hencode _),
    splitAll_of_not_mem (hencode _)]

/-- At least one round is made, and the number of rounds that are made is told. -/
theorem holds_hash (password : String) (salt : List UInt8) (h : rounds ≤ word32Max) :
    Holds (hash password salt rounds) (max rounds 1) salt
      (derive password salt (max rounds 1)) where
  text := ⟨digits (max rounds 1), (natural?_eq_some_iff.1 (natural?_digits le_rfl)).1,
    String.toList_ofList⟩
  positive := Nat.le_max_right rounds 1
  fits := Nat.max_le.2 ⟨h, by decide⟩

/-! ## Answers -/

theorem readRounds_eq_some_iff {number : List Char} :
    (natural? word32Max number).filter (· > 0) = some rounds ↔
      Tells number rounds ∧ rounds ≤ word32Max ∧ 0 < rounds := by
  rw [Option.filter_eq_some_iff, natural?_eq_some_iff, decide_eq_true_eq, and_assoc]

theorem verify_of_holds (h : Holds stored rounds salt digest) (password : String) :
    verify password stored = .ok (Digest.sameBytes (derive password salt rounds) digest) := by
  obtain ⟨number, hnumber, hpieces⟩ := h.splitAll
  simp only [verify, hpieces, ne_eq, not_true_eq_false, if_false,
    readRounds_eq_some_iff.2 ⟨hnumber, h.fits, h.positive⟩, Base64.decode?_encode]

/-- Any other text is refused, whatever the password. -/
theorem exists_holds_of_verify (h : verify password stored = .ok known) :
    ∃ rounds salt digest, Holds stored rounds salt digest := by
  unfold verify at h
  split at h
  next name number saltText digestText hpieces =>
    split_ifs at h with hname
    split at h
    next => cases h
    next rounds hrounds =>
      split at h
      next => cases h
      next salt hsalt =>
        split at h
        next => cases h
        next digest hdigest =>
          obtain ⟨hnumber, hfits, hpositive⟩ := readRounds_eq_some_iff.1 hrounds
          refine ⟨rounds, salt, digest, ⟨number, hnumber, ?_⟩, hpositive, hfits⟩
          rw [← intercalate_splitAll '$' stored.toList, hpieces, not_not.1 hname,
            Base64.decode?_eq_some_iff.1 hsalt, Base64.decode?_eq_some_iff.1 hdigest]
          simp
  next => cases h

/-- A password is known exactly if the digest that is told is the one that is made of it. -/
theorem Holds.answer_iff (h : Holds stored rounds salt digest) :
    verify password stored = .ok known ↔ (known = true ↔ digest = derive password salt rounds) := by
  rw [verify_of_holds h, Except.ok.injEq, eq_comm (a := digest), ← Digest.sameBytes_iff]
  cases known <;> simp

theorem verify_eq_ok_iff : verify password stored = .ok known ↔ ∃ rounds salt digest,
    Holds stored rounds salt digest ∧ (known = true ↔ digest = derive password salt rounds) := by
  constructor
  · intro h
    obtain ⟨rounds, salt, digest, hholds⟩ := exists_holds_of_verify h
    exact ⟨rounds, salt, digest, hholds, hholds.answer_iff.1 h⟩
  · rintro ⟨rounds, salt, digest, hholds, hknown⟩
    exact hholds.answer_iff.2 hknown

/-- A password that was stored is known again. -/
theorem verify_hash (password : String) (salt : List UInt8) (h : rounds ≤ word32Max) :
    verify password (hash password salt rounds) = .ok true :=
  (holds_hash password salt h).answer_iff.2 (iff_of_true rfl rfl)

/-- Two lists of bytes are found to be the same exactly if they are. So a password is known exactly
    from the texts that tell the 32 bytes which are made of it with the salt and the rounds of the
    text, and taken for another one where the text tells other bytes, as it does if they are fewer
    or more than 32. -/
theorem known_by_digest :
    (∀ a b : List UInt8, Digest.sameBytes a b = true ↔ a = b) ∧
    ∀ password stored : String,
      (verify password stored = .ok true ↔
        ∃ rounds salt, Holds stored rounds salt (derive password salt rounds)) ∧
      (verify password stored = .ok false ↔ ∃ rounds salt digest,
        Holds stored rounds salt digest ∧ digest ≠ derive password salt rounds) ∧
      ∀ rounds salt digest, Holds stored rounds salt digest →
        (derive password salt rounds).length = 32 ∧
        (verify password stored = .ok true ↔ digest = derive password salt rounds) ∧
        (digest.length ≠ 32 → verify password stored = .ok false) := by
  refine ⟨fun a b => Digest.sameBytes_iff, fun password stored => ⟨?_, ?_, ?_⟩⟩
  · simp [verify_eq_ok_iff]
  · simp [verify_eq_ok_iff]
  intro rounds salt digest hholds
  have hlength : (derive password salt rounds).length = 32 := Digest.length_pbkdf2 _ _ _
  refine ⟨hlength, by simp [hholds.answer_iff], fun hother => hholds.answer_iff.2 ?_⟩
  have hne : digest ≠ derive password salt rounds := by
    rintro rfl
    exact hother hlength
  simpa using hne

/-- A password is known from a text that tells its digest, here with a sign before the rounds. It is
    not known from the digest without its last byte, with one more byte, or without any. -/
theorem known_by_digest_cut :
    verify "passwd" "pbkdf2-sha256$+1$c2FsdA$VawEblbjCJ/sFpHCJUS2BflBhSFt3gRl5oudV8INrLw" =
        .ok true ∧
      verify "passwd" "pbkdf2-sha256$1$c2FsdA$VawEblbjCJ/sFpHCJUS2BflBhSFt3gRl5oudV8INrA" =
        .ok false ∧
      verify "passwd" "pbkdf2-sha256$1$c2FsdA$VawEblbjCJ/sFpHCJUS2BflBhSFt3gRl5oudV8INrLwA" =
        .ok false ∧
      verify "passwd" "pbkdf2-sha256$1$c2FsdA$" = .ok false := by
  let salt : List UInt8 := [115, 97, 108, 116]
  let made : List UInt8 :=
    [0x55, 0xac, 0x04, 0x6e, 0x56, 0xe3, 0x08, 0x9f, 0xec, 0x16, 0x91, 0xc2, 0x25, 0x44, 0xb6, 0x05,
     0xf9, 0x41, 0x85, 0x21, 0x6d, 0xde, 0x04, 0x65, 0xe6, 0x8b, 0x9d, 0x57, 0xc2, 0x0d, 0xac, 0xbc]
  have hmade : derive "passwd" salt 1 = made := by decide +kernel
  have hholds {stored : String} (number : List Char) (digest : List UInt8)
      (hrounds : (natural? word32Max number).filter (· > 0) = some 1)
      (htext : stored.toList =
        scheme ++ '$' :: number ++ '$' :: Base64.encode salt ++ '$' :: Base64.encode digest) :
      Holds stored 1 salt digest := by
    obtain ⟨hnumber, hfits, hpositive⟩ := readRounds_eq_some_iff.1 hrounds
    exact ⟨⟨number, hnumber, htext⟩, hpositive, hfits⟩
  obtain ⟨-, hanswers⟩ := known_by_digest
  have hother {stored : String} {digest : List UInt8} (h : Holds stored 1 salt digest)
      (hlength : digest.length ≠ 32) : verify "passwd" stored = .ok false := by
    obtain ⟨-, -, hanswer⟩ := hanswers "passwd" stored
    obtain ⟨-, -, hfalse⟩ := hanswer 1 salt digest h
    exact hfalse hlength
  refine ⟨?_, ?_, ?_, ?_⟩
  · refine (hanswers "passwd" _).1.2 ⟨1, salt, ?_⟩
    rw [hmade]
    exact hholds ['+', '1'] made (by decide) (by decide)
  · exact hother (hholds ['1'] (made.take 31) (by decide) (by decide)) (by decide)
  · exact hother (hholds ['1'] (made ++ [0]) (by decide) (by decide)) (by decide)
  · exact hother (hholds ['1'] [] (by decide) (by decide)) (by decide)

end Loyalty.Password
