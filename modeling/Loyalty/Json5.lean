import Loyalty.Settings.Datum
import Loyalty.Text.Blank
import Loyalty.Text.Hex
import Loyalty.Text.Split

/-!
# JSON5 files

JSON as people write it: remarks, keys without quotes, either kind of quotes, a
comma behind the last item, hexadecimal integers, and numbers with a sign or a
bare point. A value is an integer if its text has neither a point nor an
exponent, and a double otherwise. Of two entries of one name the last counts.

Every reader takes characters from the front of a text and answers with the
rest; it answers nothing where the text is no JSON5.
-/

namespace Loyalty.Json5

open Loyalty.Text Loyalty.Settings

/-- What reads a value from the front of some characters. -/
abbrev Reader (α : Type) := List Char → Option (α × List Char)

/-! ## Filler -/

/-- Whether a line ends at a character. -/
def endsLine (c : Char) : Bool :=
  c = '\n' || c = '\r' || c = '\u2028' || c = '\u2029'

/-- Whether a character may stand between values: a blank other than the one
    for the next line, or the mark of the byte order. -/
def isFiller (c : Char) : Bool := (isBlank c && c != '\u0085') || c = '\ufeff'

/-- What is left behind the end of a remark between slashes and stars. -/
def afterStars? : List Char → Option (List Char)
  | [] => none
  | '*' :: '/' :: rest => some rest
  | _ :: rest => afterStars? rest

/-- What is left behind blanks and remarks, at most so many. -/
def skipFillerFrom : Nat → List Char → List Char
  | 0, cs => cs
  | fuel + 1, cs =>
    match cs.dropWhile isFiller with
    | '/' :: '*' :: rest =>
      match afterStars? rest with
      | some rest => skipFillerFrom fuel rest
      | none => '/' :: '*' :: rest
    | '/' :: '/' :: rest => skipFillerFrom fuel (rest.dropWhile (!endsLine ·))
    | rest => rest

/-- What is left behind blanks and remarks. -/
def skipFiller (cs : List Char) : List Char := skipFillerFrom (cs.length + 1) cs

/-! ## Texts -/

/-- The number of some hexadecimal digits. -/
def hexNumber? (cs : List Char) : Option Nat :=
  cs.foldlM (fun n c => (hexValue? c).map (16 * n + ·)) 0

/-- The code point that a letter stands for behind a backslash. -/
def escapedCode (c : Char) : Nat :=
  match c with
  | 'b' => 8
  | 't' => 9
  | 'n' => 10
  | 'v' => 11
  | 'f' => 12
  | 'r' => 13
  | c => c.toNat

/-- The code points of a text up to its closing quote, behind the opening one;
    what is escaped by number may be half of a pair. -/
def codes (quote : Char) : Reader (List Nat)
  | [] => none
  | '\\' :: '\r' :: '\n' :: rest => codes quote rest
  | '\\' :: '0' :: rest => (codes quote rest).map fun (ns, rest) => (0 :: ns, rest)
  | '\\' :: 'x' :: a :: b :: rest => do
    let n ← hexNumber? [a, b]
    let (ns, rest) ← codes quote rest
    return (n :: ns, rest)
  | '\\' :: 'u' :: a :: b :: c :: d :: rest => do
    let n ← hexNumber? [a, b, c, d]
    let (ns, rest) ← codes quote rest
    return (n :: ns, rest)
  | '\\' :: c :: rest =>
    if endsLine c then codes quote rest
    else if c.isDigit || c = 'x' || c = 'u' then none
    else (codes quote rest).map fun (ns, rest) => (escapedCode c :: ns, rest)
  | c :: rest =>
    if c = quote then some ([], rest)
    else if endsLine c then none
    else (codes quote rest).map fun (ns, rest) => (c.toNat :: ns, rest)

/-- The characters of code points in which characters beyond 16 bits may be
    written as a pair of two halves; no half may stand alone. -/
def joined? : List Nat → Option (List Char)
  | [] => some []
  | high :: low :: rest =>
    if 0xD800 ≤ high ∧ high < 0xDC00 then
      if 0xDC00 ≤ low ∧ low < 0xE000 then
        (joined? rest).map (Char.ofNat (0x10000 + (high - 0xD800) * 1024 + (low - 0xDC00)) :: ·)
      else none
    else if 0xDC00 ≤ high ∧ high < 0xE000 then none
    else (joined? (low :: rest)).map (Char.ofNat high :: ·)
  | [n] => if 0xD800 ≤ n ∧ n < 0xE000 then none else some [Char.ofNat n]

/-- A text, from behind its opening quote. -/
def text (quote : Char) : Reader String := fun cs => do
  let (ns, rest) ← codes quote cs
  return (.ofList (← joined? ns), rest)

/-! ## Numbers -/

/-- Whether a character is an ASCII digit. -/
def isDigit (c : Char) : Bool := (digitValue? c).isSome

/-- The text of an exponent, if one stands there. -/
def exponentText (cs : List Char) : List Char × List Char :=
  let digitsOf (mark : List Char) (rest : List Char) : List Char × List Char :=
    let ds := rest.takeWhile isDigit
    if ds.isEmpty then ([], cs) else (mark ++ ds, rest.dropWhile isDigit)
  match cs with
  | e :: '+' :: rest => if e.toLower = 'e' then digitsOf [e, '+'] rest else ([], cs)
  | e :: '-' :: rest => if e.toLower = 'e' then digitsOf [e, '-'] rest else ([], cs)
  | e :: rest => if e.toLower = 'e' then digitsOf [e] rest else ([], cs)
  | [] => ([], [])

/-- The text of a decimal number without a sign. A whole part of several digits
    does not begin with zero. -/
def decimalText : Reader (List Char) := fun cs =>
  let whole := match cs with
    | '0' :: _ => ['0']
    | _ => cs.takeWhile isDigit
  let (places, rest) := match cs.drop whole.length with
    | '.' :: rest => ('.' :: rest.takeWhile isDigit, rest.dropWhile isDigit)
    | rest => ([], rest)
  if whole.isEmpty && places.length < 2 then none
  else
    let (e, rest) := exponentText rest
    some (whole ++ places ++ e, rest)

/-- Whether a character is a hexadecimal digit. -/
def isHexDigit (c : Char) : Bool := (hexValue? c).isSome

/-- The text of a number without a sign. -/
def magnitudeText : Reader (List Char) := fun cs =>
  let named (name : String) : Option (List Char × List Char) :=
    (dropStart? name.toList cs).map fun rest => (name.toList, rest)
  let hexadecimal : Option (List Char × List Char) :=
    match cs with
    | '0' :: x :: rest =>
      let ds := rest.takeWhile isHexDigit
      if x.toLower = 'x' && !ds.isEmpty then
        some ('0' :: x :: ds, rest.dropWhile isHexDigit)
      else none
    | _ => none
  hexadecimal <|> decimalText cs <|> named "Infinity" <|> named "NaN"

/-- The value of a number that is finite. -/
def finite? (x : ExtendedDouble) : Option Datum :=
  match x with
  | .finite _ => some (.real x)
  | _ => none

/-- The value that the text of a number stands for, unless it is hexadecimal. -/
def decimalOf? (cs : List Char) : Option Datum :=
  let s := String.ofList cs
  if s = "Infinity" then some (.real (.infinite false))
  else if s = "-Infinity" then some (.real (.infinite true))
  else if s = "NaN" ∨ s = "-NaN" then some (.real .nan)
  else if cs.any fun c => c = '.' || c.toLower = 'e' then (ExtendedDouble.read? cs).bind finite?
  else (int64? cs).map Datum.integer

/-- The value that the text of a number stands for. A hexadecimal one has no
    sign and at most 32 bits. -/
def numberOf? (cs : List Char) : Option Datum :=
  match cs with
  | '0' :: x :: ds =>
    if x.toLower = 'x' then
      ((hexNumber? ds).filter (· ≤ word32Max)).map fun n => .integer n
    else decimalOf? cs
  | _ => decimalOf? cs

/-- A number. -/
def number : Reader Datum := fun cs => do
  let (sign, cs) := match cs with
    | '-' :: rest => (['-'], rest)
    | '+' :: rest => (['+'], rest)
    | rest => ([], rest)
  let (digits, rest) ← magnitudeText cs
  return (← numberOf? (sign ++ digits), rest)

/-! ## Keys -/

/-- Whether a key without quotes may begin with a character. Beyond ASCII,
    every character that is no filler counts as a letter. -/
def beginsName (c : Char) : Bool :=
  c.isAlpha || c = '$' || c = '_' || (c.toNat ≥ 128 && !isFiller c)

/-- The characters of a key without quotes; what is escaped in it stays as it
    is written. -/
def nameChars (first : Bool) : List Char → List Char × List Char
  | [] => ([], [])
  | '\\' :: 'u' :: a :: b :: c :: d :: rest =>
    if (hexNumber? [a, b, c, d]).isSome then
      let (name, rest) := nameChars false rest
      ('\\' :: 'u' :: a :: b :: c :: d :: name, rest)
    else ([], '\\' :: 'u' :: a :: b :: c :: d :: rest)
  | c :: rest =>
    if beginsName c || (!first && isDigit c) then
      let (name, rest) := nameChars false rest
      (c :: name, rest)
    else ([], c :: rest)

/-- A key. -/
def key : Reader String := fun cs =>
  match cs with
  | '"' :: rest => text '"' rest
  | '\x27' :: rest => text '\x27' rest
  | _ =>
    let (name, rest) := nameChars true cs
    if name.isEmpty then none else some (.ofList name, rest)

/-! ## Values -/

/-- The items of a list, from behind its bracket or a comma. -/
def items (value : Reader Datum) (first : Bool) : Nat → Reader (List Datum)
  | 0, _ => none
  | fuel + 1, cs =>
    match skipFiller cs with
    | ']' :: rest => some ([], rest)
    | ',' :: rest =>
      if first then none
      else
        match skipFiller rest with
        | ']' :: rest => some ([], rest)
        | rest => do
          let (d, rest) ← value rest
          let (ds, rest) ← items value false fuel rest
          return (d :: ds, rest)
    | rest =>
      if !first then none
      else do
        let (d, rest) ← value rest
        let (ds, rest) ← items value false fuel rest
        return (d :: ds, rest)

/-- A key, and its value behind a colon. -/
def pair (value : Reader Datum) : Reader (String × Datum) := fun cs => do
  let (name, rest) ← key cs
  match skipFiller rest with
  | ':' :: rest =>
    let (d, rest) ← value (skipFiller rest)
    return ((name, d), rest)
  | _ => none

/-- The entries of an object, from behind its brace or a value. -/
def entries (value : Reader Datum) (first : Bool) : Nat → Reader (List (String × Datum))
  | 0, _ => none
  | fuel + 1, cs => do
    let more (rest : List Char) : Option (List (String × Datum) × List Char) := do
      let (e, rest) ← pair value rest
      let (es, rest) ← entries value false fuel rest
      return (if (es.lookup e.1).isSome then es else e :: es, rest)
    match first, skipFiller cs with
    | _, '\x7d' :: rest => return ([], rest)
    | true, rest => more rest
    | false, ',' :: rest =>
      match skipFiller rest with
      | '\x7d' :: rest => return ([], rest)
      | rest => more rest
    | false, _ => none

/-- A value with at most so many levels of lists and objects in it. -/
def value : Nat → Reader Datum
  | 0, _ => none
  | level + 1, cs =>
    match cs with
    | 'n' :: 'u' :: 'l' :: 'l' :: rest => some (.null, rest)
    | 't' :: 'r' :: 'u' :: 'e' :: rest => some (.flag true, rest)
    | 'f' :: 'a' :: 'l' :: 's' :: 'e' :: rest => some (.flag false, rest)
    | '"' :: rest => (text '"' rest).map fun (s, rest) => (.text s, rest)
    | '\x27' :: rest => (text '\x27' rest).map fun (s, rest) => (.text s, rest)
    | '[' :: rest =>
      (items (value level) true (rest.length + 1) rest).map fun (ds, rest) => (.list ds, rest)
    | '\x7b' :: rest =>
      (entries (value level) true (rest.length + 1) rest).map fun (es, rest) => (.table es, rest)
    | _ => number cs

/-- The entries of a file that holds one object and nothing else. -/
def read? (s : String) : Option (List (String × Datum)) := do
  match ← value (s.toList.length + 1) (skipFiller s.toList) with
  | (.table es, rest) => if (skipFiller rest).isEmpty then some es else none
  | _ => none

end Loyalty.Json5
