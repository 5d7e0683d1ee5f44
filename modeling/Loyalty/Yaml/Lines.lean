import Loyalty.Yaml.Cursor

/-!
# Texts of whole lines

A text may be written as a block of lines behind a mark: a bar keeps the line
ends, an angle makes a single one between two lines a space, unless one of the
two begins with a blank. Digit and sign behind the mark tell how far the lines
are indented, and what becomes of the line ends behind the last line: with a
minus sign all are dropped, with a plus sign all are kept, and otherwise one is.
Without a digit, the first line with something in it tells the indentation.
-/

namespace Loyalty.Yaml

/-- What becomes of the line ends behind the last line. -/
inductive Ending
  /-- one is kept -/
  | clip
  | strip
  | keep
  deriving DecidableEq, Repr

/-- The ending that a sign stands for. -/
def Ending.ofSign? (c : Char) : Option Ending :=
  if c = '+' then some .keep else if c = '-' then some .strip else none

/-- How a text of lines is written, apart from its mark. -/
structure LineStyle where
  ending : Ending
  /-- the indentation against the block around the text -/
  indent : Option Nat
  deriving DecidableEq, Repr

/-- The digit of an indentation. -/
def indentOf? (c : Char) : Option Nat :=
  if c.isDigit ∧ c ≠ '0' then some (c.toNat - '0'.toNat) else none

/-- The style behind a mark, and the place behind it: a digit and a sign in
    either order. -/
def lineStyle (c : Cursor) : LineStyle × Cursor :=
  let digit (c : Cursor) : Option Nat × Cursor :=
    match c.rest.head?.bind indentOf? with
    | some n => (some n, c.next)
    | none => (none, c)
  let sign (c : Cursor) : Option Ending × Cursor :=
    match c.rest.head?.bind Ending.ofSign? with
    | some e => (some e, c.next)
    | none => (none, c)
  match sign c with
  | (some e, c) =>
    let (n, c) := digit c
    (⟨e, n⟩, c)
  | (none, c) =>
    let (n, c) := digit c
    let (e, c) := if n.isSome then sign c else (none, c)
    (⟨e.getD .clip, n⟩, c)

/-- The number of empty lines with at most so many spaces in them, and the
    place behind the indentation of the line that follows. -/
def emptyLines (indent : Nat) : Nat → Cursor → Nat × Cursor
  | 0, c => (0, c)
  | fuel + 1, c =>
    let spaces := (c.rest.takeWhile (· = ' ')).length
    let after := c.skip (min spaces (indent - c.column))
    match after.rest with
    | '\n' :: _ =>
      let (n, last) := emptyLines indent fuel after.next
      (n + 1, last)
    | _ => (0, after)

/-- The most spaces at the start of a line, in empty lines and the first line
    with something in it. -/
def firstIndent : Nat → Cursor → Nat
  | 0, _ => 0
  | fuel + 1, c =>
    let after := c.skipWhile (· = ' ')
    match after.rest with
    | '\n' :: _ => max after.column (firstIndent fuel after.next)
    | _ => after.column

/-- Lines that have been read, and what stands behind them. -/
structure Lines where
  text : List Char
  /-- whether the last line has an end -/
  isEnded : Bool
  /-- the empty lines behind the last line -/
  emptyLines : Nat
  place : Cursor

/-- The lines from one with something in it: `between` is what stands before
    it, and `isFolded` tells whether a single line end may become a space. -/
def linesFrom (isFolded : Bool) (indent : Nat) :
    Nat → (isEnded : Bool) → (empty : Nat) → (afterBlank : Bool) → Cursor → Lines
  | 0, isEnded, empty, _, c => ⟨[], isEnded, empty, c⟩
  | fuel + 1, isEnded, empty, afterBlank, c =>
    if c.column ≠ indent || c.rest.isEmpty || (indent = 0 && c.isAtMark '.') then
      ⟨[], isEnded, empty, c⟩
    else
      let beginsBlank := c.rest.head?.any isSpace
      let between :=
        if isFolded && isEnded && !afterBlank && !beginsBlank then
          if empty = 0 then [' '] else List.replicate empty '\n'
        else List.replicate (empty + if isEnded then 1 else 0) '\n'
      let line := c.rest.takeWhile (· != '\n')
      let lineEnd := c.lineEnd
      if lineEnd.rest.isEmpty then ⟨between ++ line, false, 0, lineEnd⟩
      else
        let (n, start) := emptyLines indent (c.rest.length + 1) lineEnd.next
        let more := linesFrom isFolded indent fuel true n beginsBlank start
        { more with text := between ++ line ++ more.text }

/-- A text of lines, from its mark on, in a block whose lines stand so far to
    the right; and the place behind it. -/
def lineText? (column : Int) (c : Cursor) : Option (List Char × Cursor) := do
  let isFolded := c.rest.head? = some '>'
  let (style, behind) := lineStyle c.next
  let lineEnd ← behind.restOfLine?
  let body := lineEnd.next
  let fuel := body.rest.length + 1
  if body.rest.head? = some '\t' then none
  else
    let indent : Nat := match style.indent with
      | some n => (max column 0).toNat + n
      | none =>
        let least := if column > 0 then max (column + 1).toNat 1 else (column + 1).toNat
        max (firstIndent fuel body) least
    let (n, start) := emptyLines indent fuel body
    if start.rest.isEmpty then
      let lineEnds := match style.ending with
        | .strip => 0
        | .clip => 1
        | .keep => max n 1
      return (if start.line = c.line then [] else List.replicate lineEnds '\n', start)
    else if start.column < indent ∧ column < start.column then none
    else
      let lines := linesFrom isFolded indent fuel false n false start
      let isCut := lines.place.rest.isEmpty && lines.place.column ≥ max indent 1
      let lineEnds := match style.ending with
        | .strip => 0
        | .clip => (if lines.isEnded then 1 else 0) + if isCut then 1 else 0
        | .keep => (if lines.isEnded then 1 else 0) + (if isCut then 1 else 0) + lines.emptyLines
      return (lines.text ++ List.replicate lineEnds '\n', lines.place)

end Loyalty.Yaml
