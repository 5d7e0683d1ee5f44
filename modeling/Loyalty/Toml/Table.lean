import Loyalty.Settings.Datum

/-!
# Tables of TOML

A table is written in pieces: under a header, by keys with points in them, or
by the headers of its parts alone. Each table under construction therefore
knows its origin. A header may open a table once, also after those of its
parts; a key with points may add to a table that such a key began, and may pass
through one that no header opened. What is written as a value is closed.
-/

namespace Loyalty.Toml

open Loyalty.Settings

/-- How a table began. -/
inductive Origin
  /-- by a header of its own -/
  | header
  /-- by the header of one of its parts -/
  | part
  /-- by a key with points -/
  | pointed
  deriving DecidableEq, Repr

/-- What a name stands for in a table under construction. -/
inductive Node
  | value (d : Datum)
  | table (origin : Origin) (entries : List (String × Node))
  /-- tables of one name under headers of their own, the last one first -/
  | tables (all : List (List (String × Node)))

namespace Node

/-- Entries with the one of a name set. -/
def setEntry (name : String) (node : Node) : List (String × Node) → List (String × Node)
  | [] => [(name, node)]
  | (k, v) :: es => if k = name then (k, node) :: es else (k, v) :: setEntry name node es

/-- Changes the table that a path leads to, beginning at a table of this origin
    with these entries. Tables that are missing on the way are begun; `pointed`
    says that the path is a key and no header. -/
def change (pointed : Bool)
    (f : Origin → List (String × Node) → Option (List (String × Node))) :
    List String → Origin → List (String × Node) → Option (List (String × Node))
  | [], origin, entries => f origin entries
  | name :: path, _, entries =>
    match entries.lookup name with
    | none => do
      let begun := if pointed then Origin.pointed else Origin.part
      let inner ← change pointed f path begun []
      return setEntry name (.table begun inner) entries
    | some (.table origin inner) =>
      if pointed ∧ origin = .header then none
      else do return setEntry name (.table origin (← change pointed f path origin inner)) entries
    | some (.tables (last :: earlier)) => do
      return setEntry name (.tables ((← change pointed f path .header last) :: earlier)) entries
    | some (.tables []) => none
    | some (.value _) => none

/-- Adds a value under a key to a table. The key may not stand there yet, and a
    key with points may only add to a table begun by such a key. -/
def addValue (path : List String) (name : String) (value : Datum)
    (entries : List (String × Node)) : Option (List (String × Node)) :=
  let add (origin : Origin) (entries : List (String × Node)) : Option (List (String × Node)) :=
    if !path.isEmpty && origin ≠ .pointed then none
    else if (entries.lookup name).isSome then none
    else some (setEntry name (.value value) entries)
  change true add path .header entries

/-- Opens a table by its header. -/
def openTable (path : List String) (name : String) (root : List (String × Node)) :
    Option (List (String × Node)) :=
  let add (_ : Origin) (entries : List (String × Node)) : Option (List (String × Node)) :=
    match entries.lookup name with
    | none => some (setEntry name (.table .header []) entries)
    | some (.table .part inner) => some (setEntry name (.table .header inner) entries)
    | some _ => none
  change false add path .header root

/-- Opens one more of the tables of one name by its header. -/
def openNext (path : List String) (name : String) (root : List (String × Node)) :
    Option (List (String × Node)) :=
  let add (_ : Origin) (entries : List (String × Node)) : Option (List (String × Node)) :=
    match entries.lookup name with
    | none => some (setEntry name (.tables [[]]) entries)
    | some (.tables all) => some (setEntry name (.tables ([] :: all)) entries)
    | some _ => none
  change false add path .header root

mutual

/-- What a name stands for in the end. -/
def toDatum : Node → Datum
  | .value d => d
  | .table _ entries => .table (toEntries entries)
  | .tables all => .list (toItems all [])

/-- The entries of a table in the end. -/
def toEntries : List (String × Node) → List (String × Datum)
  | [] => []
  | (name, node) :: rest => (name, toDatum node) :: toEntries rest

/-- The tables of one name in the order in which they were opened, before those
    behind them. -/
def toItems : List (List (String × Node)) → List Datum → List Datum
  | [], behind => behind
  | entries :: earlier, behind => toItems earlier (.table (toEntries entries) :: behind)

end

end Node
end Loyalty.Toml
