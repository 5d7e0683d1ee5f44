import Loyalty.Settings.Datum
import Loyalty.Text.Number
import Loyalty.Text.Split

/-!
# Layers of settings

Settings come in layers: what is built in, then files, then variables. A later
layer is put over the ones before it key by key. A table is put over a table
by putting its entries over it, at any depth; anything else takes the place of
what was there.

The case of the letters of a name does not count: settings have their names in
small letters.

The outermost keys of a layer may be *paths*: names with points between them,
and numbers in brackets that stand for a place in a list, a negative one
counted from its end. A key that is no path is taken as one name.
-/

namespace Loyalty.Settings

open Loyalty.Text

/-- A character of a name as a small letter. Apart from capitals of ASCII, only
    the sign of the kelvin has a small letter of ASCII; no other letter has one
    that stands in the name of a setting. -/
def smallLetter (c : Char) : Char := if c = '\u212a' then 'k' else c.toLower

/-- A name in small letters. -/
def smallName (name : String) : String := .ofList (name.toList.map smallLetter)

namespace Datum

/-- The entries of a table; anything else has none. -/
def entries : Datum → List (String × Datum)
  | .table es => es
  | _ => []

/-- The entry of a name. -/
def get? (d : Datum) (name : String) : Option Datum := d.entries.lookup (smallName name)

/-- Entries with the one of a name replaced, or a new one behind the others. -/
def setEntry (name : String) (value : Datum) : List (String × Datum) → List (String × Datum)
  | [] => [(name, value)]
  | (k, v) :: es => if k = name then (k, value) :: es else (k, v) :: setEntry name value es

/-- The table with the entry of a name set; what is no table becomes one. -/
def set (d : Datum) (name : String) (value : Datum) : Datum :=
  .table (setEntry (smallName name) value d.entries)

mutual

/-- A datum with a value put over its entry of a name. -/
def put (d : Datum) (name : String) : Datum → Datum
  | .table es => d.set name (putAll ((d.get? name).getD (.table [])) es)
  | value => d.set name value

/-- A datum with entries put over it. -/
def putAll (d : Datum) : List (String × Datum) → Datum
  | [] => d
  | (name, value) :: es => putAll (put d name value) es

end

/-- The items of a list; anything else has none. -/
def items : Datum → List Datum
  | .list ds => ds
  | _ => []

/-- A list of at least `length` items, with nulls at its end. -/
def lengthened (length : Nat) (ds : List Datum) : List Datum :=
  ds ++ List.replicate (length - ds.length) .null

end Datum

/-! ## Paths -/

/-- A step from a datum to one of its parts. -/
inductive Step
  | key (name : String)
  | place (index : Int)
  deriving DecidableEq, Repr

/-- Whether a character may stand in a name of a path. -/
def isNameChar (c : Char) : Bool :=
  c.isAlphanum || c = ' ' || c = '_' || c = '-'

/-- The place that a text between brackets names: an integer, perhaps with a
    minus sign, and spaces around it. -/
def placeOf? (cs : List Char) : Option Step :=
  let isSpace (c : Char) : Bool := c = ' ' || c = '\t'
  match ((cs.dropWhile isSpace).reverse.dropWhile isSpace).reverse with
  | '+' :: _ => none
  | number => (int64? number).map Step.place

/-- The step that a piece between points begins with, and its places: a name,
    then numbers in brackets. -/
def stepsOfPiece? (piece : List Char) : Option (List Step) := do
  let name := piece.takeWhile isNameChar
  let rest := piece.dropWhile isNameChar
  if name.isEmpty then none
  else
    let places ← match rest with
      | [] => some []
      | '[' :: behind =>
        (splitAll '[' behind).mapM fun p =>
          match p.reverse with
          | ']' :: inside => placeOf? inside.reverse
          | _ => none
      | _ => none
    return .key (.ofList name) :: places

/-- The steps of a path; a key that is no path is one step. -/
def steps (key : String) : List Step :=
  match (splitAll '.' key.toList).mapM stepsOfPiece? with
  | some pieces => pieces.flatten
  | none => [.key key]

namespace Datum

/-- A datum with a value put over what a path leads to. -/
def putAt (value : Datum) : List Step → Datum → Datum
  | [], _ => value
  | [.key name], d => d.put name value
  | .key name :: rest, d => d.set name (putAt value rest ((d.get? name).getD .null))
  | .place i :: rest, d =>
    let i := (if i < 0 then d.items.length + i else i).toNat
    let ds := lengthened (i + 1) d.items
    .list (ds.set i (putAt value rest (ds.getD i .null)))

/-- A datum with a layer put over it. -/
def putLayer (d : Datum) (layer : List (String × Datum)) : Datum :=
  layer.foldl (fun d (key, value) => putAt value (steps key) d) d

end Datum
end Loyalty.Settings
