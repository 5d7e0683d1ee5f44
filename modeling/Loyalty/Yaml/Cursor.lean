/-!
# Places in a text

A `Cursor` is a text that is being read: what is left of it, and the line and
column where that begins. In YAML the columns tell what belongs to what, so
every reader works on a cursor.

The text of a cursor has one character for every line end, and ends before the
first NUL.
-/

namespace Loyalty.Yaml

/-! ## Characters -/

/-- Whether a character is a space or a tab. -/
def isSpace (c : Char) : Bool := c = ' ' || c = '\t'

/-- Whether a text begins with a line end, or is over. -/
def endsLine : List Char → Bool
  | [] => true
  | c :: _ => c = '\n'

/-- Whether a text begins with a blank or a line end, or is over. -/
def endsWord : List Char → Bool
  | [] => true
  | c :: _ => isSpace c || c = '\n'

/-- Whether a character belongs to the signs of lists and tables in brackets. -/
def isBracketSign (c : Char) : Bool := c = ',' || c = '[' || c = ']' || c = '{' || c = '}'

/-- Whether a text begins with such a sign. -/
def beginsBracketSign : List Char → Bool
  | [] => false
  | c :: _ => isBracketSign c

/-- A text with one character for every line end, up to the first NUL. -/
def withPlainLineEnds : List Char → List Char
  | [] => []
  | '\r' :: '\n' :: rest => '\n' :: withPlainLineEnds rest
  | '\r' :: rest => '\n' :: withPlainLineEnds rest
  | c :: rest => if c = '\x00' then [] else c :: withPlainLineEnds rest

/-! ## Cursors -/

/-- A place in a text. -/
structure Cursor where
  /-- what is left of the text -/
  rest : List Char
  line : Nat
  column : Nat
  /-- the number of characters before the place -/
  index : Nat
  /-- nothing but blanks stands before the place in its line -/
  isIndented : Bool
  deriving DecidableEq, Repr

namespace Cursor

/-- The start of a text. -/
def ofText (cs : List Char) : Cursor := ⟨withPlainLineEnds cs, 0, 0, 0, true⟩

/-- The place behind the next character. -/
def next (c : Cursor) : Cursor :=
  match c.rest with
  | [] => c
  | x :: rest =>
    if x = '\n' then ⟨rest, c.line + 1, 0, c.index + 1, true⟩
    else ⟨rest, c.line, c.column + 1, c.index + 1, c.isIndented && isSpace x⟩

/-- The place behind the next `n` characters. -/
def skip : Nat → Cursor → Cursor
  | 0, c => c
  | n + 1, c => skip n c.next

/-- The place behind the longest run of characters that fit. -/
def skipWhile (p : Char → Bool) (c : Cursor) : Cursor := c.skip (c.rest.takeWhile p).length

/-- The end of the line. -/
def lineEnd (c : Cursor) : Cursor := c.skipWhile (· != '\n')

/-- Whether three characters stand alone at the start of a line. -/
def isAtMark (x : Char) (c : Cursor) : Bool :=
  c.column = 0 &&
    match c.rest with
    | a :: b :: d :: rest => a = x && b = x && d = x && endsWord rest
    | _ => false

/-- Whether a document begins or ends here. -/
def isAtDocumentMark (c : Cursor) : Bool := c.isAtMark '-' || c.isAtMark '.'

/-- The place behind blanks and a remark; nothing if a remark follows without
    a blank before it. -/
def gap? (c : Cursor) : Option Cursor :=
  let after := c.skipWhile isSpace
  match after.rest with
  | '#' :: _ => if after.index = c.index then none else some after.lineEnd
  | _ => some after

/-- The place behind blanks and a remark if the line ends there. -/
def restOfLine? (c : Cursor) : Option Cursor := c.gap?.filter fun after => endsLine after.rest

end Cursor
end Loyalty.Yaml
