import Loyalty.Settings.Layers
import Loyalty.Text.Blank
import Loyalty.Text.Hex
import Loyalty.Text.Number

/-!
# INI files

A file holds sections, remarks and entries. An entry is a key and a value with
an equals sign or a colon between them; a section is begun by its name in
brackets. A key and the name of a section may go over several lines, and so
may a value in quotes; another value ends with its line. Every value is a
text, and what stands before the first section belongs to none.

A backslash begins an escaped character everywhere but in remarks. A remark
begins with a semicolon or a hash, as the first character of its line: further
to the right these characters are a fault where a key could begin, and plain
characters elsewhere. A section that is begun again starts anew.
-/

namespace Loyalty.Ini

open Loyalty.Text Loyalty.Settings

/-! ## Characters -/

/-- The character that a letter stands for behind a backslash. -/
def escapedChar (c : Char) : Char :=
  match c with
  | '0' => '\x00'
  | 'a' => '\x07'
  | 'b' => '\x08'
  | 't' => '\t'
  | 'r' => '\r'
  | 'n' => '\n'
  | _ => c

/-- The character whose number is written in these hexadecimal digits, perhaps
    behind a plus sign. -/
def numberedChar? (cs : List Char) : Option Char := do
  let ds := match cs with
    | '+' :: rest => rest
    | rest => rest
  let n ← ds.foldlM (fun n c => (hexValue? c).map (16 * n + ·)) 0
  if n.isValidChar then some (Char.ofNat n) else none

/-- The characters before the first that is one of `stops`, which is left, with
    what is escaped put in. If `toEnd` is set they may also go on to the end of
    the file. -/
def readUntil (stops : List Char) (toEnd : Bool) : List Char → Option (List Char × List Char)
  | [] => if toEnd then some ([], []) else none
  | '\\' :: '\n' :: rest => readUntil stops toEnd rest
  | '\\' :: 'x' :: p :: q :: r :: s :: rest => do
    let c ← numberedChar? [p, q, r, s]
    let (content, rest) ← readUntil stops toEnd rest
    return (c :: content, rest)
  | '\\' :: 'x' :: _ => none
  | '\\' :: c :: rest =>
    (readUntil stops toEnd rest).map fun (content, rest) => (escapedChar c :: content, rest)
  | '\\' :: [] => none
  | c :: rest =>
    if stops.contains c then some ([], c :: rest)
    else (readUntil stops toEnd rest).map fun (content, rest) => (c :: content, rest)

/-- What is left behind blanks, and whether it begins a line; `fresh` says
    whether the blanks do. -/
def skipBlanks (fresh : Bool) : List Char → Bool × List Char
  | [] => (fresh, [])
  | c :: cs => if isBlank c then skipBlanks (c = '\n') cs else (fresh, c :: cs)

/-- What is left behind the blanks of a line. -/
def skipInLine (cs : List Char) : List Char :=
  cs.dropWhile fun c => isBlank c && c != '\n' && c != '\r'

/-- What is left behind a remark and its line end. -/
def skipRemark (cs : List Char) : List Char := (cs.dropWhile (· != '\n')).drop 1

/-! ## Values and names -/

/-- A value: parts in quotes as they are, then the rest of the line without
    the blanks at its end, and at its start if it is the whole value. -/
def value : Nat → Bool → List Char → Option (List Char × List Char)
  | 0, _, _ => none
  | _ + 1, _, [] => some ([], [])
  | fuel + 1, whole, c :: cs =>
    if c = '"' ∨ c = '\x27' then do
      let (part, rest) ← readUntil [c] false cs
      let (more, rest) ← value fuel false (rest.drop 1)
      return (part ++ more, rest)
    else do
      let (part, rest) ← readUntil ['\n', '\r'] true (c :: cs)
      return (if whole then trimChars part else trimEnd part, rest)

/-- The name of a section, from behind its opening bracket. -/
def sectionName (cs : List Char) : Option (String × List Char) := do
  let (name, rest) ← readUntil [']'] false cs
  return (.ofList (trimChars name), rest.drop 1)

/-- A key and its value. -/
def entry (cs : List Char) : Option ((String × String) × List Char) := do
  let (key, rest) ← readUntil ['=', ':'] false cs
  let key := trimChars key
  if key.isEmpty then none
  else
    let (v, rest) ← value (rest.length + 1) true (skipInLine (rest.drop 1))
    return ((.ofList key, .ofList v), rest)

/-! ## Files -/

/-- Entries with one more, in a section or in none. -/
def addEntry (sectionName : Option String) (key : String) (value : Datum)
    (entries : List (String × Datum)) : List (String × Datum) :=
  match sectionName with
  | none => Datum.setEntry key value entries
  | some name =>
    let inner := ((entries.lookup name).map Datum.entries).getD []
    Datum.setEntry name (.table (Datum.setEntry key value inner)) entries

/-- Entries with those of the rest of a file added, `current` being the section
    that was begun last. -/
def readFrom : Nat → Bool → Option String → List (String × Datum) → List Char →
    Option (List (String × Datum))
  | 0, _, _, _, _ => none
  | fuel + 1, fresh, current, entries, cs =>
    match skipBlanks fresh cs with
    | (_, []) => some entries
    | (_, '[' :: rest) => do
      let (name, rest) ← sectionName rest
      readFrom fuel false (some name) (Datum.setEntry name (.table []) entries) rest
    | (fresh, c :: rest) =>
      if c = ';' ∨ c = '#' then
        if fresh then readFrom fuel true current entries (skipRemark rest) else none
      else do
        let ((key, v), rest) ← entry (c :: rest)
        readFrom fuel false current (addEntry current key (.text v) entries) rest

/-- The entries of a file. -/
def read? (s : String) : Option (List (String × Datum)) :=
  readFrom (s.toList.length + 1) true none [] s.toList

end Loyalty.Ini
