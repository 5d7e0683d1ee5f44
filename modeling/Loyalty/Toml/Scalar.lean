import Loyalty.Settings.Datum
import Loyalty.Time.Timestamp
import Loyalty.Toml.Scan

/-!
# Numbers, dates and words of TOML

A number may have a sign, and underscores between its digits. An integer has
64 bits and may be written in other bases; a number with a point or an exponent
is a double. A date or a time is kept as its text.
-/

namespace Loyalty.Toml

open Loyalty.Text Loyalty.Settings

/-- The digits at the front of a text, without the single underscores between
    them; `inside` says whether a digit stands before. -/
def digitRun (isDigit : Char → Bool) (inside : Bool) : List Char → List Char × List Char
  | [] => ([], [])
  | [c] => if isDigit c then ([c], []) else ([], [c])
  | c :: d :: rest =>
    if isDigit c then
      let (digits, rest) := digitRun isDigit true (d :: rest)
      (c :: digits, rest)
    else if c = '_' && inside && isDigit d then digitRun isDigit true (d :: rest)
    else ([], c :: d :: rest)

/-- One or more digits. -/
def digitRun? (isDigit : Char → Bool) : Reader (List Char) := fun cs =>
  let (digits, rest) := digitRun isDigit false cs
  if digits.isEmpty then none else some (digits, rest)

/-- Whether a character is a decimal digit. -/
def isDigit (c : Char) : Bool := (digitValue? c).isSome

/-- A sign, if there is one: whether it is a minus. -/
def sign : List Char → Bool × List Char
  | '-' :: rest => (true, rest)
  | '+' :: rest => (false, rest)
  | cs => (false, cs)

/-- The digits of a whole number: several of them only if the first is not
    zero. -/
def wholeDigits : Reader (List Char)
  | '0' :: rest => some (['0'], rest)
  | cs => digitRun? isDigit cs

/-! ## Numbers -/

/-- An integer of 64 bits. -/
def integer64? (n : Int) : Option Datum :=
  if int64Min ≤ n ∧ n ≤ int64Max then some (.integer n) else none

/-- An integer in a base, from its digits. -/
def inBase (base : Nat) : Reader Datum := fun cs => do
  let ofBase (c : Char) : Bool := (hexValue? c).any (· < base)
  let (digits, rest) ← digitRun? ofBase cs
  let n ← digits.foldlM (fun n c => (hexValue? c).map (base * n + ·)) 0
  return (← integer64? n, rest)

/-- An integer. -/
def integer : Reader Datum := fun cs =>
  match cs with
  | '0' :: 'x' :: rest => inBase 16 rest
  | '0' :: 'o' :: rest => inBase 8 rest
  | '0' :: 'b' :: rest => inBase 2 rest
  | _ => do
    let (negative, rest) := sign cs
    let (digits, rest) ← wholeDigits rest
    let n : Int ← (digitsValue? digits).map Int.ofNat
    return (← integer64? (if negative then -n else n), rest)

/-- The exponent of a number, from its letter. -/
def exponent : Reader Int := fun cs => do
  let rest ← match cs with
    | 'e' :: rest => some rest
    | 'E' :: rest => some rest
    | _ => none
  let (negative, rest) := sign rest
  let (digits, rest) ← digitRun? isDigit rest
  let n : Int ← (digitsValue? digits).map Int.ofNat
  return (if negative then -n else n, rest)

/-- A double from its parts; one too large is read only behind a minus. -/
def double? (negative : Bool) (digits places : List Char) (exponent : Int) : Option Datum := do
  let n ← digitsValue? (digits ++ places)
  let x := ExtendedDouble.ofDecimal negative n (exponent - places.length)
  if x = .infinite false then none else some (.real x)

/-- A number with a point or an exponent. -/
def decimal : Reader Datum := fun cs => do
  let (negative, rest) := sign cs
  let (digits, rest) ← wholeDigits rest
  match rest with
  | '.' :: rest =>
    let (places, rest) ← digitRun? isDigit rest
    if rest.head?.any fun c => c = 'e' || c = 'E' then
      let (e, rest) ← exponent rest
      return (← double? negative digits places e, rest)
    else return (← double? negative digits places 0, rest)
  | rest =>
    let (e, rest) ← exponent rest
    return (← double? negative digits [] e, rest)

/-- An infinity, or no number. -/
def special : Reader Datum := fun cs =>
  let (negative, rest) := sign cs
  match rest with
  | 'i' :: 'n' :: 'f' :: rest => some (.real (.infinite negative), rest)
  | 'n' :: 'a' :: 'n' :: rest => some (.real .nan, rest)
  | _ => none

/-! ## Dates and times -/

/-- A number of exactly so many digits. -/
def fixed (width : Nat) : Reader Nat := fun cs =>
  if cs.length < width then none
  else (digitsValue? (cs.take width)).map fun n => (n, cs.drop width)

/-- A number of two digits, of at least `low` and at most `high`. -/
def pair (low high : Nat) : Reader Nat := fun cs => do
  let (n, rest) ← fixed 2 cs
  if low ≤ n ∧ n ≤ high then some (n, rest) else none

/-- The rest of a text behind a character that must be there. -/
def expect (c : Char) : List Char → Option (List Char)
  | d :: rest => if d = c then some rest else none
  | [] => none

/-- The text of a date. -/
def date : Reader (List Char) := fun cs => do
  let (year, rest) ← fixed 4 cs
  let rest ← expect '-' rest
  let (month, rest) ← pair 1 12 rest
  let rest ← expect '-' rest
  let (day, rest) ← pair 1 (Timestamp.daysOfMonth year month) rest
  return (paddedDigits 4 year ++ '-' :: paddedDigits 2 month ++ '-' :: paddedDigits 2 day, rest)

/-- The text of the fraction of a second: at most nine places, without zeros at
    the end. -/
def fraction : Reader (List Char)
  | '.' :: rest => do
    let digits := rest.takeWhile isDigit
    if digits.isEmpty then none
    else
      let kept := ((digits.take 9).reverse.dropWhile (· = '0')).reverse
      return (if kept.isEmpty then [] else '.' :: kept, rest.dropWhile isDigit)
  | rest => some ([], rest)

/-- The text of a time. -/
def time : Reader (List Char) := fun cs => do
  let (hour, rest) ← pair 0 23 cs
  let rest ← expect ':' rest
  let (minute, rest) ← pair 0 59 rest
  let rest ← expect ':' rest
  let (second, rest) ← pair 0 60 rest
  let (part, rest) ← fraction rest
  return (paddedDigits 2 hour ++ ':' :: paddedDigits 2 minute ++ ':' :: paddedDigits 2 second ++
    part, rest)

/-- The text of an offset from UTC, if there is one. -/
def offset (cs : List Char) : Option (List Char × List Char) :=
  let numeric (mark : Char) (rest : List Char) : Option (List Char × List Char) := do
    let (hours, rest) ← pair 0 23 rest
    let rest ← expect ':' rest
    let (minutes, rest) ← pair 0 59 rest
    let mark := if hours = 0 ∧ minutes = 0 then '+' else mark
    return (mark :: paddedDigits 2 hours ++ ':' :: paddedDigits 2 minutes, rest)
  match cs with
  | 'Z' :: rest => some (['Z'], rest)
  | 'z' :: rest => some (['Z'], rest)
  | '+' :: rest => numeric '+' rest
  | '-' :: rest => numeric '-' rest
  | _ => some ([], cs)

/-- The text of a date with a time, of a date, or of a time. -/
def dateTime : Reader Datum := fun cs =>
  let textOf (cs : List Char) : Datum := .text (.ofList cs)
  match date cs with
  | none => (time cs).map fun (t, rest) => (textOf t, rest)
  | some (d, rest) =>
    let timed : Option (Datum × List Char) :=
      match rest with
      | [] => none
      | c :: behind =>
        if c = 'T' ∨ c = 't' ∨ c = ' ' then do
          let (t, rest) ← time behind
          let (o, rest) ← offset rest
          return (textOf (d ++ 'T' :: t ++ o), rest)
        else none
    some (timed.getD (textOf d, rest))

/-! ## Values without parts -/

/-- A value that is neither a list nor a table. -/
def scalar : Reader Datum := fun cs =>
  match cs with
  | 't' :: 'r' :: 'u' :: 'e' :: rest => some (.flag true, rest)
  | 'f' :: 'a' :: 'l' :: 's' :: 'e' :: rest => some (.flag false, rest)
  | '"' :: _ => (string cs).map fun (s, rest) => (.text s, rest)
  | '\x27' :: _ => (string cs).map fun (s, rest) => (.text s, rest)
  | _ => dateTime cs <|> decimal cs <|> integer cs <|> special cs

end Loyalty.Toml
