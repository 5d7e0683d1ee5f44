import Loyalty.Number.Power
import Loyalty.Text.Blank
import Loyalty.Text.Number

/-!
# Points in time

A timestamp counts seconds from the beginning of 1970, in UTC, and nanoseconds
within the second; a leap second is the second before it with more than a
billion nanoseconds. Its text is that of RFC 3339, in UTC. Reading is lenient:
blanks may stand before the parts of a date or a time, and those parts may
have one digit only.
-/

namespace Loyalty

open Loyalty.Text

/-- A point in time. -/
structure Timestamp where
  seconds : Int
  nanoseconds : Nat
  deriving DecidableEq, Repr, Inhabited

namespace Timestamp

/-- Whether one time is not after another. -/
def le (a b : Timestamp) : Bool :=
  a.seconds < b.seconds || (a.seconds = b.seconds && a.nanoseconds ≤ b.nanoseconds)

/-! ## The calendar -/

/-- The day of a date, counted from the beginning of 1970. A year is taken to
    begin in March, so that a leap day ends it. -/
def dayOfDate (year : Int) (month day : Nat) : Int :=
  let y := if month ≤ 2 then year - 1 else year
  let era := y / 400
  let yearOfEra := y % 400
  let monthFromMarch : Int := ((month : Int) + 9) % 12
  let dayOfYear := (153 * monthFromMarch + 2) / 5 + day - 1
  let dayOfEra := yearOfEra * 365 + yearOfEra / 4 - yearOfEra / 100 + dayOfYear
  era * 146097 + dayOfEra - 719468

/-- The year, month and day of a day counted from the beginning of 1970. -/
def dateOfDay (n : Int) : Int × Nat × Nat :=
  let z := n + 719468
  let era := z / 146097
  let dayOfEra := z % 146097
  let yearOfEra :=
    (dayOfEra - dayOfEra / 1460 + dayOfEra / 36524 - dayOfEra / 146096) / 365
  let dayOfYear := dayOfEra - (365 * yearOfEra + yearOfEra / 4 - yearOfEra / 100)
  let monthFromMarch := (5 * dayOfYear + 2) / 153
  let day := dayOfYear - (153 * monthFromMarch + 2) / 5 + 1
  let month := if monthFromMarch < 10 then monthFromMarch + 3 else monthFromMarch - 9
  let year := yearOfEra + era * 400
  (if month ≤ 2 then year + 1 else year, month.toNat, day.toNat)

/-- The days of a month. -/
def daysOfMonth (year : Int) (month : Nat) : Nat :=
  if month = 2 then
    if year % 4 = 0 ∧ (year % 100 ≠ 0 ∨ year % 400 = 0) then 29 else 28
  else if month = 4 ∨ month = 6 ∨ month = 9 ∨ month = 11 then 30
  else 31

/-- The first year of the calendar. -/
def firstYear : Int := -262143

/-- The last year of the calendar. -/
def lastYear : Int := 262142

/-! ## Writing -/

/-- A year: four digits, or more behind a sign. -/
def yearChars (year : Int) : List Char :=
  if 0 ≤ year ∧ year ≤ 9999 then paddedDigits 4 year.toNat
  else (if year < 0 then '-' else '+') :: paddedDigits 4 year.natAbs

/-- A fraction of a second, in none, three, six or nine places. -/
def fractionChars (nanoseconds : Nat) : List Char :=
  if nanoseconds = 0 then []
  else if nanoseconds % 1000000 = 0 then '.' :: paddedDigits 3 (nanoseconds / 1000000)
  else if nanoseconds % 1000 = 0 then '.' :: paddedDigits 6 (nanoseconds / 1000)
  else '.' :: paddedDigits 9 nanoseconds

/-- The text of a timestamp. -/
def chars (t : Timestamp) : List Char :=
  let (year, month, day) := dateOfDay (t.seconds / 86400)
  let second := (t.seconds % 86400).toNat
  let leap := t.nanoseconds / 1000000000
  yearChars year ++ '-' :: paddedDigits 2 month ++ '-' :: paddedDigits 2 day ++
    'T' :: paddedDigits 2 (second / 3600) ++ ':' :: paddedDigits 2 (second / 60 % 60) ++
    ':' :: paddedDigits 2 (second % 60 + leap) ++ fractionChars (t.nanoseconds % 1000000000) ++
    ['Z']

/-! ## Reading -/

/-- One digit to `most` of them, and what follows. -/
def takeNumber? (most : Nat) (cs : List Char) : Option (Nat × List Char) := do
  let ds := (cs.take most).takeWhile fun c => (digitValue? c).isSome
  let n ← digitsValue? ds
  return (n, cs.drop ds.length)

/-- A part of a date or a time: blanks and at most two digits. -/
def takePart? (top : Nat) (cs : List Char) : Option (Nat × List Char) := do
  let (n, rest) ← takeNumber? 2 (trimStart cs)
  if n ≤ top then some (n, rest) else none

/-- The rest behind a separator with blanks before it. -/
def takeSeparator? (separator : Char) (cs : List Char) : Option (List Char) :=
  match trimStart cs with
  | c :: rest => if c = separator then some rest else none
  | [] => none

/-- A year of at most four digits, or one of any length behind a sign. -/
def takeYear? (cs : List Char) : Option (Int × List Char) :=
  match trimStart cs with
  | '-' :: rest => (takeNumber? rest.length rest).map fun (n, rest) => (-(n : Int), rest)
  | '+' :: rest => (takeNumber? rest.length rest).map fun (n, rest) => ((n : Int), rest)
  | rest => (takeNumber? 4 rest).map fun (n, rest) => ((n : Int), rest)

/-- The nanoseconds of a fraction, of which nine digits count. -/
def takeFraction? : List Char → Option (Nat × List Char)
  | '.' :: cs => do
    let ds := cs.takeWhile fun c => (digitValue? c).isSome
    let kept := ds.take 9
    let n ← digitsValue? kept
    return (n * tenTo (9 - kept.length), cs.drop ds.length)
  | cs => some (0, cs)

/-- Two digits, and what follows. -/
def takeTwoDigits? : List Char → Option (Nat × List Char)
  | a :: b :: rest => (digitsValue? [a, b]).map (·, rest)
  | _ => none

/-- An offset from UTC in seconds. -/
def takeOffset? (cs : List Char) : Option (Int × List Char) := do
  match cs with
  | 'Z' :: rest | 'z' :: rest => return (0, rest)
  | u :: t :: c :: rest =>
    if (u = 'u' ∨ u = 'U') ∧ (t = 't' ∨ t = 'T') ∧ (c = 'c' ∨ c = 'C') then return (0, rest)
    else
      let negative ←
        if u = '+' then some false else if u = '-' ∨ u = '\u2212' then some true else none
      let (hours, more) ← takeTwoDigits? (t :: c :: rest)
      let (minutes, more) ← takeTwoDigits? (more.dropWhile fun c => c = ':' ∨ isBlank c)
      if minutes < 60 ∧ hours < 24 then
        let offset : Int := hours * 3600 + minutes * 60
        return (if negative then -offset else offset, more)
      else none
  | _ => none

/-- Reads a timestamp. -/
def parse? (cs : List Char) : Option Timestamp := do
  let (year, cs) ← takeYear? cs
  let (month, cs) ← takePart? 12 (← takeSeparator? '-' cs)
  let (day, cs) ← takePart? 31 (← takeSeparator? '-' cs)
  let cs ← match cs with
    | 't' :: rest | 'T' :: rest | ' ' :: rest => some rest
    | _ => none
  let (hour, cs) ← takePart? 23 cs
  let (minute, cs) ← takePart? 59 (← takeSeparator? ':' cs)
  let (second, cs) ← takePart? 60 (← takeSeparator? ':' cs)
  let (nanoseconds, cs) ← takeFraction? cs
  let (offset, cs) ← takeOffset? (trimStart cs)
  let leap := second / 60
  let dayNumber := dayOfDate year month day
  let total := dayNumber * 86400 + hour * 3600 + minute * 60 + second - leap - offset
  let (lastingYear, _) := dateOfDay (total / 86400)
  if (trimStart cs).isEmpty ∧ firstYear ≤ year ∧ year ≤ lastYear ∧ 1 ≤ month ∧ 1 ≤ day ∧
      day ≤ daysOfMonth year month ∧ firstYear ≤ lastingYear ∧ lastingYear ≤ lastYear then
    some ⟨total, nanoseconds + leap * 1000000000⟩
  else none

end Timestamp
end Loyalty
