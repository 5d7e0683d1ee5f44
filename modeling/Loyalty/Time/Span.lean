import Loyalty.Number.Power
import Loyalty.Text.Number

/-!
# Spans of time

A span is a whole number of nanoseconds. Its text uses the largest of the
units `s`, `ms`, `µs` and `ns` of which it holds at least one, with as many
decimal places as the span needs.
-/

namespace Loyalty

open Loyalty.Text

/-- A length of time. -/
structure Span where
  nanoseconds : Nat
  deriving DecidableEq, Repr, Inhabited

namespace Span

/-- A span of whole seconds. -/
def seconds (n : Nat) : Span := ⟨n * 1000000000⟩

/-- A span of whole milliseconds. -/
def milliseconds (n : Nat) : Span := ⟨n * 1000000⟩

/-- The whole seconds in a span. -/
def toSeconds (s : Span) : Nat := s.nanoseconds / 1000000000

instance : LE Span := ⟨fun a b => a.nanoseconds ≤ b.nanoseconds⟩
instance : LT Span := ⟨fun a b => a.nanoseconds < b.nanoseconds⟩
instance (a b : Span) : Decidable (a ≤ b) :=
  inferInstanceAs (Decidable (a.nanoseconds ≤ b.nanoseconds))
instance (a b : Span) : Decidable (a < b) :=
  inferInstanceAs (Decidable (a.nanoseconds < b.nanoseconds))

/-- `n` units of `10 ^ places` nanoseconds each, as a decimal number. -/
def inUnit (n places : Nat) : List Char :=
  let part := (paddedDigits places (n % tenTo places)).reverse.dropWhile (· = '0') |>.reverse
  digits (n / tenTo places) ++ if n % tenTo places = 0 then [] else '.' :: part

/-- The text of a span, in its largest unit. -/
def text (s : Span) : String :=
  let n := s.nanoseconds
  if n ≥ 1000000000 then .ofList (inUnit n 9 ++ ['s'])
  else if n ≥ 1000000 then .ofList (inUnit n 6 ++ ['m', 's'])
  else if n ≥ 1000 then .ofList (inUnit n 3 ++ ['µ', 's'])
  else .ofList (inUnit n 0 ++ ['n', 's'])

end Span
end Loyalty
