import Loyalty.Text.Hex
import Loyalty.Text.Number

/-!
# Characters, strings and keys of TOML

A reader takes characters from the front of a text and answers with what it
read and with the rest; it answers nothing where the text is no TOML. Here are
line ends, comments, the four kinds of strings, and keys.
-/

namespace Loyalty.Toml

open Loyalty.Text

/-- What reads a value from the front of some characters. -/
abbrev Reader (α : Type) := List Char → Option (α × List Char)

/-- Whether a character may stand in a comment or in a string of one line. -/
def isPlain (c : Char) : Bool := c = '\t' || (' ' ≤ c && c ≠ '\x7f')

/-- Whether a character is a space or a tab. -/
def isSpace (c : Char) : Bool := c = ' ' || c = '\t'

/-- The rest of a text behind spaces and tabs. -/
def skipSpaces (cs : List Char) : List Char := cs.dropWhile isSpace

/-- The rest of a text behind a line end. -/
def newline? : List Char → Option (List Char)
  | '\n' :: rest => some rest
  | '\r' :: '\n' :: rest => some rest
  | _ => none

/-- The rest of a text behind a comment, if one stands there. -/
def skipComment : List Char → List Char
  | '#' :: rest => rest.dropWhile isPlain
  | cs => cs

/-- The rest of a text behind what may stand between the end of an entry and
    the next line. -/
def endLine? (cs : List Char) : Option (List Char) :=
  match skipComment (skipSpaces cs) with
  | [] => some []
  | rest => newline? rest

/-- The rest of a text behind spaces, line ends and comments; `commented` says
    whether it begins within a comment. -/
def skipFiller (commented : Bool) : List Char → List Char
  | [] => []
  | '\n' :: rest => skipFiller false rest
  | '\r' :: '\n' :: rest => skipFiller false rest
  | c :: rest =>
    if commented then if isPlain c then skipFiller true rest else c :: rest
    else if isSpace c then skipFiller false rest
    else if c = '#' then skipFiller true rest
    else c :: rest

/-! ## Strings -/

/-- The character that a letter stands for behind a backslash. -/
def escapedChar? (c : Char) : Option Char :=
  match c with
  | '"' | '\\' => some c
  | 'b' => some '\x08'
  | 'f' => some '\x0c'
  | 'n' => some '\n'
  | 'r' => some '\r'
  | 't' => some '\t'
  | _ => none

/-- The number of some hexadecimal digits. -/
def hexNumber? (cs : List Char) : Option Nat :=
  cs.foldlM (fun n c => (hexValue? c).map (16 * n + ·)) 0

/-- The character with a number in hexadecimal digits. -/
def numberedChar? (digits : List Char) : Option Char := do
  let n ← hexNumber? digits
  if n.isValidChar then some (Char.ofNat n) else none

/-- A character before the content that follows. -/
def before (c : Char) (r : Option (List Char × List Char)) : Option (List Char × List Char) :=
  r.map fun (content, rest) => (c :: content, rest)

/-- The content of a quoted string of one line, behind its first quote. -/
def quoted : Reader (List Char)
  | [] => none
  | '"' :: rest => some ([], rest)
  | '\\' :: 'u' :: a :: b :: c :: d :: rest =>
    (numberedChar? [a, b, c, d]).bind fun x => before x (quoted rest)
  | '\\' :: 'U' :: a :: b :: c :: d :: e :: f :: g :: h :: rest =>
    (numberedChar? [a, b, c, d, e, f, g, h]).bind fun x => before x (quoted rest)
  | '\\' :: c :: rest => (escapedChar? c).bind fun x => before x (quoted rest)
  | c :: rest => if isPlain c then before c (quoted rest) else none

/-- The content of a literal string of one line, behind its first quote. -/
def literal : Reader (List Char)
  | [] => none
  | '\x27' :: rest => some ([], rest)
  | c :: rest => if isPlain c then before c (literal rest) else none

/-- Up to two more quotes at the end of a string of several lines, which belong
    to its content. -/
def moreQuotes (quote : Char) (cs : List Char) : List Char × List Char :=
  let n := min 2 (cs.takeWhile (· = quote)).length
  (cs.take n, cs.drop n)

/-- The content of a quoted string of several lines, behind its first quotes;
    `joining` says whether blanks are passed over since a backslash at the end
    of a line. -/
def quotedLines (joining : Bool) : Reader (List Char)
  | [] => none
  | '\n' :: rest => if joining then quotedLines true rest else before '\n' (quotedLines false rest)
  | '\r' :: '\n' :: rest =>
    if joining then quotedLines true rest else before '\n' (quotedLines false rest)
  | '"' :: '"' :: '"' :: rest => some (moreQuotes '"' rest)
  | '\\' :: 'u' :: a :: b :: c :: d :: rest =>
    (numberedChar? [a, b, c, d]).bind fun x => before x (quotedLines false rest)
  | '\\' :: 'U' :: a :: b :: c :: d :: e :: f :: g :: h :: rest =>
    (numberedChar? [a, b, c, d, e, f, g, h]).bind fun x => before x (quotedLines false rest)
  | '\\' :: c :: rest =>
    match escapedChar? c with
    | some x => before x (quotedLines false rest)
    | none =>
      if (newline? (skipSpaces (c :: rest))).isSome then quotedLines true (c :: rest) else none
  | c :: rest =>
    if joining && isSpace c then quotedLines true rest
    else if isPlain c then before c (quotedLines false rest)
    else none

/-- The content of a literal string of several lines, behind its first quotes. -/
def literalLines : Reader (List Char)
  | [] => none
  | '\x27' :: '\x27' :: '\x27' :: rest => some (moreQuotes '\x27' rest)
  | '\n' :: rest => before '\n' (literalLines rest)
  | '\r' :: '\n' :: rest => before '\n' (literalLines rest)
  | c :: rest => if isPlain c then before c (literalLines rest) else none

/-- The rest of a text behind a line end, if one stands there. -/
def skipNewline (cs : List Char) : List Char := (newline? cs).getD cs

/-- A string of any kind. -/
def string : Reader String := fun cs =>
  let content? := match cs with
    | '"' :: '"' :: '"' :: rest => quotedLines false (skipNewline rest)
    | '"' :: rest => quoted rest
    | '\x27' :: '\x27' :: '\x27' :: rest => literalLines (skipNewline rest)
    | '\x27' :: rest => literal rest
    | _ => none
  content?.map fun (content, rest) => (.ofList content, rest)

/-! ## Keys -/

/-- Whether a character may stand in a key without quotes. -/
def isKeyChar (c : Char) : Bool := c.isAlphanum || c = '_' || c = '-'

/-- One name of a key. -/
def name : Reader String := fun cs =>
  match cs with
  | '"' :: rest => (quoted rest).map fun (content, rest) => (.ofList content, rest)
  | '\x27' :: rest => (literal rest).map fun (content, rest) => (.ofList content, rest)
  | _ =>
    let bare := cs.takeWhile isKeyChar
    if bare.isEmpty then none else some (.ofList bare, cs.dropWhile isKeyChar)

/-- The names of a key with points between them, at most `limit` of them, and
    the spaces around them. -/
def key : Nat → Reader (List String)
  | 0, _ => none
  | limit + 1, cs => do
    let (first, rest) ← name (skipSpaces cs)
    match skipSpaces rest with
    | '.' :: rest => (key limit rest).map fun (names, rest) => (first :: names, rest)
    | rest => return ([first], rest)

end Loyalty.Toml
