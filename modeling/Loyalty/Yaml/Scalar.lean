import Loyalty.Settings.Datum
import Loyalty.Text.Hex

/-!
# The meaning of scalars

A *scalar* of YAML is a text, and the datum that it stands for depends on how
it is written. With quotes, or as a block of lines, it is that text. Without,
it is null, a flag, an integer or a number if it looks like one; a tag in front
of it says which of these it is, or that it is a text in spite of its looks.

The marked numbers, infinity and not-a-number with a point in front, are
recognized and have no value here: what holds one is not read.
-/

namespace Loyalty.Yaml

open Loyalty.Text Loyalty.Settings

/-- An integer of 64 bits in a base, perhaps behind a sign. -/
def inBase? (base : Nat) (cs : List Char) : Option Int := do
  let (negative, digits) := match cs with
    | '-' :: rest => (true, rest)
    | '+' :: rest => (false, rest)
    | rest => (false, rest)
  if digits.isEmpty then none
  else
    let n ← digits.foldlM
      (fun n c => ((hexValue? c).filter (· < base)).map (base * n + ·)) 0
    let n : Int := if negative then -(n : Int) else n
    if int64Min ≤ n ∧ n ≤ int64Max then some n else none

/-- An integer, in one of three bases. -/
def integer? (cs : List Char) : Option Int :=
  match cs with
  | '0' :: 'x' :: rest => inBase? 16 rest
  | '0' :: 'o' :: rest => inBase? 8 rest
  | '+' :: rest => int64? rest
  | _ => int64? cs

/-- The spellings of the marked numbers. -/
def markedNumbers : List String :=
  [".inf", ".Inf", ".INF", "+.inf", "+.Inf", "+.INF", "-.inf", "-.Inf", "-.INF", ".nan", ".NAN"]

/-- What a text without quotes and tags stands for; nothing for a marked
    number. -/
def plain? (cs : List Char) : Option Datum :=
  let s := String.ofList cs
  if s = "" ∨ s = "~" ∨ s = "null" then some .null
  else if s = "true" then some (.flag true)
  else if s = "false" then some (.flag false)
  else if markedNumbers.contains s then none
  else
    match integer? cs, ExtendedDouble.read? cs with
    | some n, _ => some (.integer n)
    | none, some x => some (.real x)
    | none, none => some (.text s)

/-- The handle of the tags that name the kinds of scalars. -/
def kindHandle : String := "tag:yaml.org,2002:"

/-- What a text without quotes stands for behind a tag; null if it is not what
    the tag says, nothing for a marked number. -/
def tagged? (handle kind : String) (cs : List Char) : Option Datum :=
  let s := String.ofList cs
  if handle ≠ kindHandle then some (.text s)
  else if kind = "bool" then
    some (if s = "true" then .flag true else if s = "false" then .flag false else .null)
  else if kind = "int" then some (((int64? cs).map Datum.integer).getD .null)
  else if kind = "float" then
    if markedNumbers.contains s then none
    else some (((ExtendedDouble.read? cs).map Datum.real).getD .null)
  else if kind = "null" then some .null
  else some (.text s)

end Loyalty.Yaml
