import Loyalty.Settings.Datum
import Loyalty.Text.Hex
import Loyalty.Text.Split

/-!
# RON files

Values as they are written in a program: records in parentheses with names
before their colons, tables in braces with values before theirs, lists in
brackets, and tuples, which count as lists. The name before a record is not
looked at, and a name without a record is null, as is the empty pair of
parentheses. A comma may stand behind the last part of anything.

Every reader takes characters from the front of a text and answers with the
rest; it answers nothing where the text is no RON.
-/

namespace Loyalty.Ron

open Loyalty.Text Loyalty.Settings

/-- What reads a value from the front of some characters. -/
abbrev Reader (α : Type) := List Char → Option (α × List Char)

/-! ## Filler -/

/-- Whether a character may stand between values. -/
def isFiller (c : Char) : Bool := c = ' ' || c = '\t' || c = '\n' || c = '\r'

/-- What is left behind the end of a remark between slashes and stars, within
    which there may be others; `depth` counts those that are open. -/
def afterStars? (depth : Nat) : List Char → Option (List Char)
  | [] => none
  | '*' :: '/' :: rest => if depth = 0 then some rest else afterStars? (depth - 1) rest
  | '/' :: '*' :: rest => afterStars? (depth + 1) rest
  | _ :: rest => afterStars? depth rest

/-- What is left behind blanks and remarks, at most so many. -/
def skipFillerFrom : Nat → List Char → Option (List Char)
  | 0, cs => some cs
  | fuel + 1, cs =>
    match cs.dropWhile isFiller with
    | '/' :: '*' :: rest => (afterStars? 0 rest).bind (skipFillerFrom fuel)
    | '/' :: '/' :: rest => skipFillerFrom fuel ((rest.dropWhile (· != '\n')).drop 1)
    | '/' :: _ => none
    | rest => some rest

/-- What is left behind blanks and remarks. -/
def skipFiller (cs : List Char) : Option (List Char) := skipFillerFrom (cs.length + 1) cs

/-- What is left behind a word, and the blanks behind it. -/
def mark? (word : String) (cs : List Char) : Option (List Char) :=
  (dropStart? word.toList cs).bind skipFiller

/-- Whether a comma stands behind blanks, and what is left behind both. -/
def comma (cs : List Char) : Option (Bool × List Char) := do
  let cs ← skipFiller cs
  match cs with
  | ',' :: rest => return (true, ← skipFiller rest)
  | cs => return (false, cs)

/-! ## Names -/

/-- Whether a name may begin with a character. -/
def beginsName (c : Char) : Bool := c.isAlpha || c = '_'

/-- Whether a character may stand in a name. -/
def isNameChar (c : Char) : Bool := c.isAlphanum || c = '_'

/-- Whether a character may stand in a raw name. -/
def isRawChar (c : Char) : Bool := isNameChar c || c = '.' || c = '+' || c = '-'

/-- A name. One with characters of raw names in it must be written as such. -/
def name : Reader String := fun cs =>
  let plain : Option (String × List Char) :=
    let word := cs.takeWhile isNameChar
    if word.length < (cs.takeWhile isRawChar).length then none
    else some (.ofList word, cs.drop word.length)
  match cs with
  | 'r' :: '"' :: _ => none
  | ['r'] => none
  | 'r' :: '#' :: rest =>
    let word := rest.takeWhile isRawChar
    if word.isEmpty then none else some (.ofList word, rest.drop word.length)
  | c :: _ => if beginsName c then plain else none
  | [] => none

/-- What is left behind a word that is not the start of a longer name. -/
def word? (word : String) (cs : List Char) : Option (List Char) :=
  (dropStart? word.toList cs).filter fun rest => !rest.head?.any isNameChar

/-! ## Texts -/

/-- The number of some hexadecimal digits. -/
def hexNumber? (cs : List Char) : Option Nat :=
  cs.foldlM (fun n c => (hexValue? c).map (16 * n + ·)) 0

/-- The character of a number. -/
def charOf? (n : Nat) : Option Char := if n.isValidChar then some (Char.ofNat n) else none

/-- The character that stands behind a backslash. -/
def escaped : Reader Char := fun cs =>
  match cs with
  | '\x27' :: rest => some ('\x27', rest)
  | '"' :: rest => some ('"', rest)
  | '\\' :: rest => some ('\\', rest)
  | 'n' :: rest => some ('\n', rest)
  | 'r' :: rest => some ('\r', rest)
  | 't' :: rest => some ('\t', rest)
  | '0' :: rest => some ('\x00', rest)
  | 'x' :: a :: b :: rest => do
    let n ← hexNumber? [a, b]
    return (Char.ofNat n, rest)
  | 'u' :: '\x7b' :: rest => do
    let ds := (rest.take 6).takeWhile (· != '\x7d')
    if ds.isEmpty then none
    else
      let c ← (hexNumber? ds).bind charOf?
      match rest.drop ds.length with
      | '\x7d' :: rest => return (c, rest)
      | _ => none
  | _ => none

/-- The characters of a text up to its closing quote, behind the opening one. -/
def quoted : Nat → Reader (List Char)
  | 0, _ => none
  | _ + 1, [] => none
  | fuel + 1, c :: cs =>
    if c = '"' then some ([], cs)
    else do
      let (c, cs) ← if c = '\\' then escaped cs else some (c, cs)
      let (content, rest) ← quoted fuel cs
      return (c :: content, rest)

/-- The characters of a raw text up to its closing mark. -/
def rawQuoted (closing : List Char) : Reader (List Char)
  | [] => none
  | c :: cs =>
    match dropStart? closing (c :: cs) with
    | some rest => some ([], rest)
    | none => (rawQuoted closing cs).map fun (content, rest) => (c :: content, rest)

/-- A text. -/
def text : Reader String := fun cs =>
  let content? := match cs with
    | '"' :: rest => quoted (rest.length + 1) rest
    | 'r' :: rest =>
      let hashes := rest.takeWhile (· = '#')
      match rest.drop hashes.length with
      | '"' :: rest => rawQuoted ('"' :: hashes) rest
      | _ => none
    | _ => none
  content?.map fun (content, rest) => (.ofList content, rest)

/-- A single character, as a text. -/
def character : Reader String := fun cs => do
  let (c, rest) ← match cs with
    | '\x27' :: '\\' :: rest => escaped rest
    | '\x27' :: c :: rest => some (c, rest)
    | _ => none
  match rest with
  | '\x27' :: rest => return (.ofList [c], rest)
  | _ => none

/-! ## Numbers -/

/-- Whether a character may stand in a number with a point or an exponent. -/
def isRealChar (c : Char) : Bool :=
  c.isDigit || c = 'e' || c = 'E' || c = '.' || c = '+' || c = '-' || c = '_'

/-- Whether a character may stand in an integer, in any base. -/
def isIntegerChar (c : Char) : Bool := (hexValue? c).isSome || c = '_'

/-- A number with a point or an exponent. -/
def real : Reader Datum := fun cs =>
  let digits := cs.takeWhile isRealChar
  (ExtendedDouble.read? (digits.filter (· != '_'))).map fun x =>
    (.real x, cs.drop digits.length)

/-- An integer of 64 bits; the digits behind a mark of their base. -/
def integer (negative : Bool) : Reader Datum := fun cs => do
  let (base, cs) := match cs with
    | '0' :: 'x' :: rest => (16, rest)
    | '0' :: 'b' :: rest => (2, rest)
    | '0' :: 'o' :: rest => (8, rest)
    | rest => (10, rest)
  let digits := cs.takeWhile isIntegerChar
  if digits.isEmpty || digits.head? = some '_' then none
  else
    let n ← (digits.filter (· != '_')).foldlM
      (fun n c => ((hexValue? c).filter (· < base)).map (base * n + ·)) 0
    let n : Int := if negative then -(n : Int) else n
    if int64Min ≤ n ∧ n ≤ int64Max then some (.integer n, cs.drop digits.length) else none

/-- A number: an integer if it looks like one and fits, otherwise a double. -/
def number : Reader Datum := fun cs =>
  let (negative, digits) := match cs with
    | '-' :: rest => (true, rest)
    | '+' :: rest => (false, rest)
    | rest => (false, rest)
  let looksReal :=
    (digits.takeWhile isRealChar).length > (digits.takeWhile isIntegerChar).length
  if looksReal then real cs else integer negative digits <|> real cs

/-! ## Values -/

/-- The parts up to a closing mark, with commas between them. -/
def parts {α : Type} (part : Reader α) (closing : Char) : Nat → Bool → Reader (List α)
  | 0, _, _ => none
  | fuel + 1, behindComma, cs => do
    match ← skipFiller cs with
    | [] => none
    | c :: rest =>
      if c = closing then return ([], rest)
      else if !behindComma then none
      else
        let (first, rest) ← part (c :: rest)
        let (behindComma, rest) ← comma rest
        let (more, rest) ← parts part closing fuel behindComma rest
        return (first :: more, rest)

/-- A name or a value, and the value behind its colon. -/
def pair {α : Type} (key : Reader α) (value : Reader Datum) : Reader (α × Datum) := fun cs => do
  let (k, rest) ← key cs
  let rest ← mark? ":" (← skipFiller rest)
  let (d, rest) ← value rest
  return ((k, d), rest)

/-- Entries without those that come before another of the same name. -/
def lastOnes (entries : List (String × Datum)) : List (String × Datum) :=
  entries.foldr (fun e es => if (es.lookup e.1).isSome then es else e :: es) []

/-- The value in parentheses: a record if a name with a colon stands first,
    and otherwise a tuple. -/
def parenthesized (value : Reader Datum) : Reader Datum := fun cs => do
  let inside ← skipFiller cs
  let isRecord := match name inside with
    | none => false
    | some (_, rest) => ((skipFiller rest).bind List.head?) = some ':'
  if isRecord then
    let (es, rest) ← parts (pair name value) ')' (cs.length + 1) true inside
    return (.table (lastOnes es), rest)
  else
    let (ds, rest) ← parts value ')' (cs.length + 1) true inside
    return (.list ds, rest)

/-- A value without parts that is a word. -/
def named (cs : List Char) : Option (Datum × List Char) :=
  let one (word : String) (d : Datum) : Option (Datum × List Char) :=
    (word? word cs).map fun rest => (d, rest)
  one "true" (.flag true) <|> one "false" (.flag false) <|> one "None" .null <|>
    ((dropStart? "()".toList cs).map fun rest => (.null, rest)) <|>
    one "inf" (.real (.infinite false)) <|> one "-inf" (.real (.infinite true)) <|>
    one "NaN" (.real .nan)

/-- A value with at most so many levels of parts in it. -/
def value : Nat → Reader Datum
  | 0, _ => none
  | level + 1, cs =>
    match named cs with
    | some r => some r
    | none =>
      match word? "Some" cs with
      | some rest => do
        let rest ← mark? "(" (← skipFiller rest)
        let (d, rest) ← value level rest
        let (_, rest) ← comma rest
        return (d, ← dropStart? [')'] rest)
      | none =>
        match name cs with
        | some (_, rest) => do
          match ← skipFiller rest with
          | '(' :: rest => parenthesized (value level) rest
          | rest => return (.null, rest)
        | none =>
          match cs with
          | '(' :: rest => parenthesized (value level) rest
          | '[' :: rest =>
            (parts (value level) ']' (rest.length + 1) true rest).map fun (ds, rest) =>
              (.list ds, rest)
          | '\x7b' :: rest => do
            let key (cs : List Char) : Option (String × List Char) :=
              text cs <|> character cs
            let (es, rest) ←
              parts (pair key (value level)) '\x7d' (rest.length + 1) true rest
            return (.table (lastOnes es), rest)
          | '\x27' :: _ => (character cs).map fun (s, rest) => (.text s, rest)
          | c :: _ =>
            if c = '"' || c = 'r' then (text cs).map fun (s, rest) => (.text s, rest)
            else if c.isDigit || c = '+' || c = '-' || c = '.' then number cs
            else none
          | [] => none

/-- The number of levels of parts that a file may have. -/
def levelLimit : Nat := 128

/-- What is left behind the notes at the start of a file which extensions of
    the language it uses. -/
def skipNotes : Nat → List Char → Option (List Char)
  | 0, cs => some cs
  | fuel + 1, cs =>
    match cs with
    | '#' :: _ => do
      let rest ← mark? "#" cs
      let rest ← mark? "[" (← mark? "!" rest)
      let rest ← mark? "(" (← mark? "enable" rest)
      let known := ["implicit_some", "unwrap_newtypes", "unwrap_variant_newtypes"]
      let (names, rest) ← parts name ')' (rest.length + 1) true rest
      if names.all known.contains then
        skipNotes fuel (← mark? "]" (← skipFiller rest))
      else none
    | cs => some cs

/-- The entries of a file that holds one record or table and nothing else. -/
def read? (s : String) : Option (List (String × Datum)) := do
  let cs ← skipNotes s.toList.length (← skipFiller s.toList)
  match ← value levelLimit cs with
  | (.table es, rest) => if (← skipFiller rest).isEmpty then some es else none
  | _ => none

end Loyalty.Ron
