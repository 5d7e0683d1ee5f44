import Loyalty.Double.Extended

/-!
# Values as they are written

A file or a variable brings values of a few kinds, which are not always those
that are asked for. A `Datum` is such a value, and the functions here read it
as a text, as a natural number or as a flag, as far as that makes sense: a
number is written out where a text is wanted, and the words *yes* and *no*
stand for one and zero where a number is wanted.
-/

namespace Loyalty.Settings

open Loyalty.Text

/-- A value as it is written. -/
inductive Datum
  | null
  | flag (b : Bool)
  | integer (n : Int)
  | real (x : ExtendedDouble)
  | text (s : String)
  | list (items : List Datum)
  | table (entries : List (String × Datum))

namespace Datum

/-- A text with its ASCII letters small. -/
def small (s : String) : String := .ofList (s.toList.map Char.toLower)

/-- What a word says: *yes* or *no*. -/
def word? (s : String) : Option Bool :=
  let w := small s
  if w = "true" ∨ w = "on" ∨ w = "yes" then some true
  else if w = "false" ∨ w = "off" ∨ w = "no" then some false
  else none

/-- A datum read as a text. -/
def text? : Datum → Option String
  | .text s => some s
  | .flag b => some (if b then "true" else "false")
  | .integer n => some (.ofList (integerChars n))
  | .real x => some (.ofList x.chars)
  | _ => none

/-- A datum read as a natural number of at most 64 bits. -/
def natural? : Datum → Option Nat
  | .integer n => if 0 ≤ n then some n.toNat else none
  | .flag b => some (if b then 1 else 0)
  | .real x => some (x.toNatUpTo word64Max)
  | .text s =>
    match word? s with
    | some b => some (if b then 1 else 0)
    | none => Text.natural? word64Max s.toList
  | _ => none

/-- A datum read as a flag. -/
def flag? : Datum → Option Bool
  | .flag b => some b
  | .integer n => some (n ≠ 0)
  | .real x => some !x.isZero
  | .text s => if s = "1" then some true else if s = "0" then some false else word? s
  | _ => none

/-! ## Data from the environment -/

/-- The value of a variable: a flag, an integer of 64 bits, a number or a
    text, whichever fits first. -/
def ofVariable (s : String) : Datum :=
  let cs := s.toList
  if small s = "true" then .flag true
  else if small s = "false" then .flag false
  else
    match int64? cs, ExtendedDouble.read? cs with
    | some n, _ => .integer n
    | none, some x => .real x
    | none, none => .text s

end Datum
end Loyalty.Settings
