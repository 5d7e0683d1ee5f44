import Loyalty.Double.Basic
import Loyalty.Number.Power
import Loyalty.Text.Hex
import Loyalty.Text.Number
import Loyalty.Text.Utf8

/-!
# The parts of a JSON text

A reader takes bytes from the front of a text, and answers with what it read
and with the rest. It fails in one of three ways: the text ends too early
(`truncated`), it is no JSON (`malformed`), or it is not what was asked for
(`mismatched`).

Here are blanks, words, strings and numbers, and the skipping of a value
that nobody asked for, which is looked at less closely: its strings need not
be text, and its numbers may have any size.
-/

namespace Loyalty.Json

open Loyalty.Text

/-- Why a text is not read. -/
inductive ReadFault
  /-- the text ends too early -/
  | truncated
  /-- the text is no JSON -/
  | malformed
  /-- the text holds something else than was asked for -/
  | mismatched
  deriving DecidableEq, Repr

/-- What reads a value from the front of some bytes. -/
abbrev Reader (α : Type) := List UInt8 → Except ReadFault (α × List UInt8)

/-- The byte of an ASCII character. -/
def byte (c : Char) : UInt8 := UInt8.ofNat c.toNat

/-- A byte as a character. -/
def toChar (b : UInt8) : Char := Char.ofNat b.toNat

/-- Whether a byte is an ASCII digit. -/
def isDigit (b : UInt8) : Bool := byte '0' ≤ b && b ≤ byte '9'

/-- The rest of a text behind spaces, tabs and line ends. -/
def skipBlanks (bs : List UInt8) : List UInt8 :=
  bs.dropWhile fun b => b = 0x20 || b = 0x09 || b = 0x0A || b = 0x0D

/-! ## Words -/

/-- Takes the rest of a word whose first letter was seen. -/
def word : List Char → List UInt8 → Except ReadFault (List UInt8)
  | [], rest => .ok rest
  | _ :: _, [] => .error .truncated
  | c :: cs, b :: rest => if b = byte c then word cs rest else .error .malformed

/-! ## Strings -/

/-- The number of four hexadecimal digits. -/
def fourHexDigits : Reader Nat
  | a :: b :: c :: d :: rest =>
    match ofHex? [toChar a, toChar b, toChar c, toChar d] with
    | some [high, low] => .ok (high.toNat * 256 + low.toNat, rest)
    | _ => .error .malformed
  | _ => .error .truncated

/-- Whether a number is the first half of a pair of surrogates. -/
def isHighSurrogate (n : Nat) : Bool := 0xD800 ≤ n && n ≤ 0xDBFF

/-- Whether a number is the second half of a pair of surrogates. -/
def isLowSurrogate (n : Nat) : Bool := 0xDC00 ≤ n && n ≤ 0xDFFF

/-- The character of an escape `\uXXXX`, or of two of them. -/
def unicodeEscape : Reader Char := fun bs => do
  let (n, rest) ← fourHexDigits bs
  if isLowSurrogate n then .error .malformed
  else if isHighSurrogate n then
    match rest with
    | [] => .error .truncated
    | b :: rest =>
      if b ≠ byte '\\' then .error .malformed
      else
        match rest with
        | [] => .error .truncated
        | b :: rest =>
          if b ≠ byte 'u' then .error .malformed
          else do
            let (m, rest) ← fourHexDigits rest
            if isLowSurrogate m then
              .ok (Char.ofNat ((n - 0xD800) * 1024 + (m - 0xDC00) + 0x10000), rest)
            else .error .malformed
  else .ok (Char.ofNat n, rest)

/-- The character that a letter stands for behind a backslash. -/
def escapedChar? (c : Char) : Option Char :=
  match c with
  | '"' | '\\' | '/' => some c
  | 'b' => some '\x08'
  | 'f' => some '\x0c'
  | 'n' => some '\n'
  | 'r' => some '\r'
  | 't' => some '\t'
  | _ => none

/-- The character of an escape, behind the backslash. -/
def escape : Reader Char
  | [] => .error .truncated
  | b :: rest =>
    if b = byte 'u' then unicodeEscape rest
    else
      match escapedChar? (toChar b) with
      | some c => .ok (c, rest)
      | none => .error .malformed

/-- The bytes of a string up to its closing quote, those read before reversed. -/
def stringBytes : Nat → List UInt8 → Reader (List UInt8)
  | 0, _, _ => .error .truncated
  | _ + 1, _, [] => .error .truncated
  | fuel + 1, before, b :: rest =>
    if b = byte '"' then .ok (before.reverse, rest)
    else if b = byte '\\' then do
      let (c, rest) ← escape rest
      stringBytes fuel ((bytes (.singleton c)).reverse ++ before) rest
    else if b < 0x20 then .error .malformed
    else stringBytes fuel (b :: before) rest

/-- The text of a string whose opening quote was seen. -/
def stringText : Reader String := fun bs => do
  let (content, rest) ← stringBytes (bs.length + 1) [] bs
  match ofBytes? content with
  | some text => .ok (text, rest)
  | none => .error .malformed

/-! ## Numbers -/

/-- A number as it is read: a whole one of 64 bits, or a double. -/
inductive Number
  | whole (n : Int)
  | real (x : Double)
  deriving DecidableEq, Repr

/-- The value of some ASCII digits. -/
def digitsOf (bs : List UInt8) : Nat := bs.foldl (fun n b => 10 * n + (b.toNat - 48)) 0

/-- Takes digits into a significand until one does not fit into 64 bits; that one
    and those behind it are left. -/
def takeDigits (significand : Nat) : List UInt8 → Nat × List UInt8
  | [] => (significand, [])
  | d :: ds =>
    let next := 10 * significand + (d.toNat - 48)
    if next ≤ word64Max then takeDigits next ds else (significand, d :: ds)

/-- The double `± significand · 10 ^ exponent`, rounded as `Double.scale?` has it,
    if it is no larger than a double can be. -/
def realNumber (negative : Bool) (significand : Nat) (exponent : Int) :
    Except ReadFault Number :=
  match (Double.ofNat significand).scale? exponent with
  | some x => .ok (.real (if negative then x.neg else x))
  | none => .error .malformed

/-- A number without places, of which `left` digits did not fit into 64 bits; a
    double if there are such, if it has a sign and does not fit behind it, or is
    zero behind a minus sign. -/
def wholeNumber (negative : Bool) (significand left : Nat) : Except ReadFault Number :=
  if left ≠ 0 then realNumber negative significand left
  else if !negative then .ok (.whole significand)
  else if significand ≠ 0 && significand ≤ twoTo 63 then .ok (.whole (-(significand : Int)))
  else realNumber negative significand 0

/-- The exponent behind its letter. -/
def exponent : Reader Int := fun bs =>
  let (negative, bs) := match bs with
    | b :: rest =>
      if b = byte '-' then (true, rest) else if b = byte '+' then (false, rest) else (false, bs)
    | [] => (false, bs)
  match bs with
  | [] => .error .truncated
  | b :: _ =>
    if isDigit b then
      let ds := bs.takeWhile isDigit
      let n : Int := digitsOf ds
      .ok (if negative then -n else n, bs.drop ds.length)
    else .error .malformed

/-- What follows the digits of a number: an exponent, if there is one. `power` is
    the power of ten that the significand stands with before it. -/
def scaled (negative : Bool) (significand : Nat) (power : Int) : Reader Number
  | [] => return (← realNumber negative significand power, [])
  | b :: rest =>
    if b = byte 'e' || b = byte 'E' then do
      let (e, rest) ← exponent rest
      return (← realNumber negative significand (power + e), rest)
    else return (← realNumber negative significand power, b :: rest)

/-- A number behind its sign. Digits that do not fit into its significand count for
    their places before the point, and for nothing behind it. -/
def number (negative : Bool) : Reader Number := fun bs =>
  let ds := bs.takeWhile isDigit
  let rest := bs.drop ds.length
  match ds with
  | [] => .error (if rest.isEmpty then .truncated else .malformed)
  | d :: more =>
    if d = byte '0' && !more.isEmpty then .error .malformed
    else
      let (significand, left) := takeDigits 0 ds
      match rest with
      | [] => return (← wholeNumber negative significand left.length, [])
      | b :: behind =>
        if b = byte '.' then
          let fs := behind.takeWhile isDigit
          let rest := behind.drop fs.length
          if fs.isEmpty then .error (if rest.isEmpty then .truncated else .malformed)
          else
            let (significand, ignored) := takeDigits significand fs
            let places := fs.length - ignored.length
            scaled negative significand (left.length - places : Int) rest
        else if b = byte 'e' || b = byte 'E' then scaled negative significand left.length rest
        else return (← wholeNumber negative significand left.length, rest)

-- The significand is rounded to a double before it is scaled.
example : (number false (bytes "193.51000000000002")).toOption =
    (number false (bytes "193.51")).toOption := by decide +kernel

/-! ## Skipping a value -/

/-- The rest behind a string that nobody asked for. -/
def skipString : Nat → List UInt8 → Except ReadFault (List UInt8)
  | 0, _ => .error .truncated
  | _ + 1, [] => .error .truncated
  | fuel + 1, b :: rest =>
    if b = byte '"' then .ok rest
    else if b = byte '\\' then
      match rest with
      | [] => .error .truncated
      | c :: rest =>
        if c = byte 'u' then do
          let (_, rest) ← fourHexDigits rest
          skipString fuel rest
        else if (escapedChar? (toChar c)).isSome then skipString fuel rest
        else .error .malformed
    else if b < 0x20 then .error .malformed
    else skipString fuel rest

/-- The rest behind an exponent, from its letter, that nobody asked for. -/
def skipExponent (bs : List UInt8) : Except ReadFault (List UInt8) :=
  match bs with
  | b :: rest =>
    if b = byte 'e' || b = byte 'E' then
      let rest := match rest with
        | s :: more => if s = byte '+' || s = byte '-' then more else rest
        | [] => rest
      let ds := rest.takeWhile isDigit
      if ds.isEmpty then .error .malformed else .ok (rest.drop ds.length)
    else .ok bs
  | [] => .ok bs

/-- The rest behind a number, without its sign, that nobody asked for. -/
def skipNumber (bs : List UInt8) : Except ReadFault (List UInt8) :=
  let ds := bs.takeWhile isDigit
  let rest := bs.drop ds.length
  match ds with
  | [] => .error .malformed
  | d :: more =>
    if d = byte '0' && !more.isEmpty then .error .malformed
    else
      match rest with
      | b :: behind =>
        if b = byte '.' then
          let fs := behind.takeWhile isDigit
          if fs.isEmpty then .error .malformed else skipExponent (behind.drop fs.length)
        else skipExponent rest
      | [] => .ok rest

/-- The rest behind a key and its colon. -/
def skipKey (bs : List UInt8) : Except ReadFault (List UInt8) :=
  match skipBlanks bs with
  | [] => .error .truncated
  | b :: rest =>
    if b ≠ byte '"' then .error .malformed
    else do
      let rest ← skipString (rest.length + 1) rest
      match skipBlanks rest with
      | [] => .error .truncated
      | c :: rest => if c = byte ':' then .ok rest else .error .malformed

/-- Leaves the lists and objects that end here. `marks` are the closing marks
    of those that are open, the innermost first; what is left open, with the
    text behind the comma that follows, is the answer. -/
def leave (marks : List UInt8) (bs : List UInt8) :
    Except ReadFault (List UInt8 × List UInt8) :=
  match marks with
  | [] => .ok ([], bs)
  | mark :: outer =>
    match skipBlanks bs with
    | [] => .error .truncated
    | b :: rest =>
      if b = byte ',' then .ok (mark :: outer, rest)
      else if b = mark then leave outer rest
      else .error .malformed

/-- The rest behind a value that nobody asked for. `marks` are the closing
    marks of the lists and objects around it, the innermost first. -/
def skipFrom : Nat → List UInt8 → List UInt8 → Except ReadFault (List UInt8)
  | 0, _, _ => .error .truncated
  | fuel + 1, marks, bs =>
    let behind (rest : List UInt8) : Except ReadFault (List UInt8) := do
      match ← leave marks rest with
      | ([], rest) => .ok rest
      | (mark :: outer, rest) =>
        let rest ← if mark = byte '}' then skipKey rest else .ok rest
        skipFrom fuel (mark :: outer) rest
    match skipBlanks bs with
    | [] => .error .truncated
    | b :: rest =>
      if b = byte 'n' then do behind (← word ['u', 'l', 'l'] rest)
      else if b = byte 't' then do behind (← word ['r', 'u', 'e'] rest)
      else if b = byte 'f' then do behind (← word ['a', 'l', 's', 'e'] rest)
      else if b = byte '-' then do behind (← skipNumber rest)
      else if isDigit b then do behind (← skipNumber (b :: rest))
      else if b = byte '"' then do behind (← skipString (rest.length + 1) rest)
      else if b = byte '[' then
        match skipBlanks rest with
        | [] => .error .truncated
        | c :: more =>
          if c = byte ']' then behind more else skipFrom fuel (byte ']' :: marks) rest
      else if b = byte '{' then
        match skipBlanks rest with
        | [] => .error .truncated
        | c :: more =>
          if c = byte '}' then behind more
          else do skipFrom fuel (byte '}' :: marks) (← skipKey rest)
      else .error .malformed

/-- The rest behind a value that nobody asked for. -/
def skipValue (bs : List UInt8) : Except ReadFault (List UInt8) :=
  skipFrom (bs.length + 1) [] bs

end Loyalty.Json
