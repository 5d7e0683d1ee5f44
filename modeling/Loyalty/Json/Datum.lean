import Loyalty.Json.Scan
import Loyalty.Settings.Datum

/-!
# Any value of JSON

A JSON text read as the values that stand in it, whatever they are. Of two
entries of one name the last one counts. A number that does not fit an integer
of 64 bits with a sign is a double. Lists and objects are nested less than 128
deep.
-/

namespace Loyalty.Json

open Loyalty.Text Loyalty.Settings

/-- The number of levels that lists and objects may not reach. -/
def levelLimit : Nat := 128

/-- A number as a datum. -/
def numberDatum : Number → Datum
  | .whole n => if n ≤ int64Max then .integer n else .real (.finite (Double.ofNat n.toNat))
  | .real x => .real (.finite x)

/-- Entries with the one of a name set. -/
def setEntry (name : String) (d : Datum) (entries : List (String × Datum)) :
    List (String × Datum) :=
  entries.filter (·.1 ≠ name) ++ [(name, d)]

/-- The items of a list, from behind its bracket or a comma. -/
def datumItems (read : Reader Datum) : Nat → Reader (List Datum)
  | 0, _ => .error .truncated
  | fuel + 1, bs => do
    let (first, rest) ← read bs
    match skipBlanks rest with
    | [] => .error .truncated
    | b :: rest =>
      if b = byte ']' then .ok ([first], rest)
      else if b = byte ',' then do
        let (more, rest) ← datumItems read fuel rest
        return (first :: more, rest)
      else .error .malformed

/-- The entries of an object with those before, from behind its brace or a
    comma. -/
def datumEntries (read : Reader Datum) :
    Nat → List (String × Datum) → Reader (List (String × Datum))
  | 0, _, _ => .error .truncated
  | fuel + 1, entries, bs =>
    match skipBlanks bs with
    | [] => .error .truncated
    | b :: rest =>
      if b ≠ byte '"' then .error .malformed
      else do
        let (name, rest) ← stringText rest
        match skipBlanks rest with
        | [] => .error .truncated
        | c :: rest =>
          if c ≠ byte ':' then .error .malformed
          else do
            let (d, rest) ← read rest
            let entries := setEntry name d entries
            match skipBlanks rest with
            | [] => .error .truncated
            | e :: rest =>
              if e = byte '\x7d' then .ok (entries, rest)
              else if e = byte ',' then datumEntries read fuel entries rest
              else .error .malformed

/-- A value with at most so many levels of lists and objects in it. -/
def readDatum (level : Nat) : Reader Datum := fun bs =>
  match skipBlanks bs with
  | [] => .error .truncated
  | b :: rest =>
    if b = byte 'n' then return (.null, ← word ['u', 'l', 'l'] rest)
    else if b = byte 't' then return (.flag true, ← word ['r', 'u', 'e'] rest)
    else if b = byte 'f' then return (.flag false, ← word ['a', 'l', 's', 'e'] rest)
    else if b = byte '"' then do
      let (s, rest) ← stringText rest
      return (.text s, rest)
    else if b = byte '-' then do
      let (n, rest) ← number true rest
      return (numberDatum n, rest)
    else if isDigit b then do
      let (n, rest) ← number false (b :: rest)
      return (numberDatum n, rest)
    else
      match level with
      | 0 => .error .malformed
      | level + 1 =>
        if b = byte '[' then
          match skipBlanks rest with
          | [] => .error .truncated
          | c :: more =>
            if c = byte ']' then .ok (.list [], more)
            else do
              let (ds, rest) ← datumItems (readDatum level) (rest.length + 1) rest
              return (.list ds, rest)
        else if b = byte '\x7b' then
          match skipBlanks rest with
          | [] => .error .truncated
          | c :: more =>
            if c = byte '\x7d' then .ok (.table [], more)
            else do
              let (es, rest) ← datumEntries (readDatum level) (rest.length + 1) [] rest
              return (.table es, rest)
        else .error .malformed

/-- The entries of a text that holds one object and nothing else. -/
def readTable? (s : String) : Option (List (String × Datum)) :=
  match readDatum (levelLimit - 1) (bytes s) with
  | .ok (.table entries, rest) => if (skipBlanks rest).isEmpty then some entries else none
  | _ => none

end Loyalty.Json
