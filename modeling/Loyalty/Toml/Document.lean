import Loyalty.Toml.Scalar
import Loyalty.Toml.Table

/-!
# Documents of TOML

A document is read line by line: a header chooses the table, a key with a value
adds to it. Values may be lists and tables that are written within one value;
they are nested less than eighty deep, as are the names of a key.
-/

namespace Loyalty.Toml

open Loyalty.Settings

/-- The number of levels that values and keys may not reach. -/
def levelLimit : Nat := 80

/-- The items of a list, behind its bracket or a comma. -/
def items (value : Reader Datum) : Nat → Reader (List Datum)
  | 0, _ => none
  | fuel + 1, cs => do
    match skipFiller false cs with
    | ']' :: rest => return ([], rest)
    | cs =>
      let (first, rest) ← value cs
      match skipFiller false rest with
      | ']' :: rest => return ([first], rest)
      | ',' :: rest =>
        let (more, rest) ← items value fuel rest
        return (first :: more, rest)
      | _ => none

/-- The last name of a key and those before it. -/
def splitKey (names : List String) : Option (List String × String) :=
  names.getLast?.map fun last => (names.dropLast, last)

/-- The entries of a table in braces, behind its brace or a comma. -/
def pairs (value : Reader Datum) : Nat → List (String × Node) → Reader (List (String × Node))
  | 0, _, _ => none
  | fuel + 1, entries, cs => do
    let (names, rest) ← key (levelLimit - 1) cs
    let (path, name) ← splitKey names
    let (d, rest) ← value (skipSpaces (← expect '=' rest))
    let entries ← Node.addValue path name d entries
    match skipSpaces rest with
    | '}' :: rest => return (entries, rest)
    | ',' :: rest => pairs value fuel entries rest
    | _ => none

/-- A value with at most so many levels of lists and tables in it. -/
def value : Nat → Reader Datum
  | 0, cs => scalar cs
  | level + 1, cs =>
    match cs with
    | '[' :: rest =>
      (items (value level) (rest.length + 1) rest).map fun (ds, rest) => (.list ds, rest)
    | '{' :: rest =>
      match skipSpaces rest with
      | '}' :: rest => some (.table [], rest)
      | _ =>
        (pairs (value level) (rest.length + 1) [] rest).map fun (entries, rest) =>
          (.table (Node.toEntries entries), rest)
    | _ => scalar cs

/-- The table that is being written, and all that was written so far. -/
structure Draft where
  root : List (String × Node)
  current : List String

/-- A draft with a header read, from behind its brackets. -/
def header (many : Bool) (draft : Draft) (cs : List Char) : Option (Draft × List Char) := do
  let (names, rest) ← key (levelLimit - 1) cs
  let (path, name) ← splitKey names
  let rest ← expect ']' rest
  if many then
    let rest ← expect ']' rest
    return (⟨← Node.openNext path name draft.root, names⟩, ← endLine? rest)
  else return (⟨← Node.openTable path name draft.root, names⟩, ← endLine? rest)

/-- A draft with a key and its value read. -/
def entry (draft : Draft) (cs : List Char) : Option (Draft × List Char) := do
  let (names, rest) ← key (levelLimit - 1) cs
  let (path, name) ← splitKey names
  let (d, rest) ← value (levelLimit - 1) (skipSpaces (← expect '=' rest))
  let rest ← endLine? rest
  let add (_ : Origin) : List (String × Node) → Option (List (String × Node)) :=
    Node.addValue path name d
  return (⟨← Node.change false add draft.current .header draft.root, draft.current⟩, rest)

/-- A draft with all lines read. -/
def lines : Nat → Draft → List Char → Option Draft
  | 0, _, _ => none
  | fuel + 1, draft, cs =>
    match skipSpaces cs with
    | [] => some draft
    | '#' :: rest => do lines fuel draft (← endLine? ('#' :: rest))
    | '\n' :: rest => lines fuel draft rest
    | '\r' :: rest => do lines fuel draft (← newline? ('\r' :: rest))
    | '[' :: '[' :: rest => do
      let (draft, rest) ← header true draft rest
      lines fuel draft rest
    | '[' :: rest => do
      let (draft, rest) ← header false draft rest
      lines fuel draft rest
    | rest => do
      let (draft, rest) ← entry draft rest
      lines fuel draft rest

/-- The entries of a document. -/
def read? (s : String) : Option (List (String × Datum)) :=
  let cs := match s.toList with
    | '\ufeff' :: rest => rest
    | cs => cs
  (lines (cs.length + 1) ⟨[], []⟩ cs).map fun draft => Node.toEntries draft.root

end Loyalty.Toml
