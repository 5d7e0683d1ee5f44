import Loyalty.Text.Hex
import Loyalty.Yaml.Cursor

/-!
# Texts within lines

Texts in quotes and texts without may go over several lines. The white space
between two of their words is *folded*: a line end with the blanks around it is
one space, and several line ends are one less. Blanks without a line end stay.

The lines behind the first must be indented, and no document may begin or end
within them. A text without quotes ends before a colon with white space behind
it and before a remark, and in brackets also before their signs.
-/

namespace Loyalty.Yaml

open Loyalty.Text

/-! ## White space -/

/-- White space between words. -/
structure Fold where
  /-- the blanks before the first line end -/
  blanks : List Char
  lineEnds : Nat
  deriving DecidableEq, Repr

/-- The text that white space stands for. -/
def Fold.text (f : Fold) : List Char :=
  if f.lineEnds = 0 then f.blanks
  else if f.lineEnds = 1 then [' ']
  else List.replicate (f.lineEnds - 1) '\n'

/-- White space up to the next word. Behind a line end a tab does not count as
    indentation: what it stands for there is told by `tab?`. -/
def foldFrom? (indent : Int) (tab? : Cursor → Option Cursor) :
    Nat → Fold → Cursor → Option (Fold × Cursor)
  | 0, f, c => some (f, c)
  | fuel + 1, f, c =>
    match c.rest with
    | '\n' :: _ => foldFrom? indent tab? fuel { f with lineEnds := f.lineEnds + 1 } c.next
    | x :: _ =>
      if !isSpace x then some (f, c)
      else if f.lineEnds = 0 then
        foldFrom? indent tab? fuel { f with blanks := f.blanks ++ [x] } c.next
      else if x = '\t' ∧ c.column < indent then
        (tab? c).bind (foldFrom? indent tab? fuel f)
      else foldFrom? indent tab? fuel f c.next
    | [] => some (f, c)

/-- White space up to the next word, with no tabs in the indentation. -/
def fold? (indent : Int) (c : Cursor) : Option (Fold × Cursor) :=
  foldFrom? indent (fun _ => none) (c.rest.length + 1) ⟨[], 0⟩ c

/-- White space behind a word without quotes; a tab may stand in the
    indentation of a line that is otherwise empty. -/
def plainFold? (indent : Int) (c : Cursor) : Option (Fold × Cursor) :=
  foldFrom? indent Cursor.restOfLine? (c.rest.length + 1) ⟨[], 0⟩ c

/-! ## Texts in quotes -/

/-- The character that a letter stands for behind a backslash. -/
def escapedChar? (c : Char) : Option Char :=
  match c with
  | '"' | '\\' | '/' | ' ' | '\t' => some c
  | '0' => some '\x00'
  | 'a' => some '\x07'
  | 'b' => some '\x08'
  | 't' => some '\t'
  | 'n' => some '\n'
  | 'v' => some '\x0b'
  | 'f' => some '\x0c'
  | 'r' => some '\r'
  | 'e' => some '\x1b'
  | 'N' => some '\u0085'
  | '_' => some '\u00a0'
  | 'L' => some '\u2028'
  | 'P' => some '\u2029'
  | _ => none

/-- The number of hexadecimal digits behind a letter behind a backslash. -/
def escapedDigits (c : Char) : Nat :=
  if c = 'x' then 2 else if c = 'u' then 4 else if c = 'U' then 8 else 0

/-- The character of a number in hexadecimal digits. -/
def charOfDigits? (cs : List Char) : Option Char := do
  let n ← cs.foldlM (fun n c => (hexValue? c).map (16 * n + ·)) 0
  if n.isValidChar then some (Char.ofNat n) else none

/-- The character that is written at a backslash, and the place behind it. -/
def escaped? (c : Cursor) : Option (Char × Cursor) :=
  match c.rest.drop 1 with
  | [] => none
  | x :: rest =>
    let n := escapedDigits x
    if n = 0 then (escapedChar? x).map fun y => (y, c.skip 2)
    else if rest.length < n then none
    else (charOfDigits? (rest.take n)).map fun y => (y, c.skip (n + 2))

/-- What is left of a text in quotes, behind the opening one, and the place
    behind the closing one. A single quote within single quotes is written
    twice; within double quotes a backslash stands before what cannot be
    written otherwise, or before a line end that does not count. -/
def quotedFrom? (quote : Char) (indent : Int) : Nat → Cursor → Option (List Char × Cursor)
  | 0, _ => none
  | fuel + 1, c => do
    match c.rest with
    | [] => none
    | x :: rest =>
      if isSpace x || x = '\n' then
        let (fold, c) ← fold? indent c
        let (more, c) ← quotedFrom? quote indent fuel c
        return (fold.text ++ more, c)
      else if c.isAtDocumentMark || c.column < indent then none
      else if x = '\x27' ∧ x = quote ∧ rest.head? = some quote then
        let (more, c) ← quotedFrom? quote indent fuel (c.skip 2)
        return (x :: more, c)
      else if x = quote then return ([], c.next)
      else if x = '\\' ∧ quote = '"' ∧ rest.head? = some '\n' then
        let (fold, c) ← foldFrom? indent (fun _ => none) (rest.length + 1) ⟨[], 1⟩ (c.skip 2)
        let (more, c) ← quotedFrom? quote indent fuel c
        return (List.replicate (fold.lineEnds - 1) '\n' ++ more, c)
      else if x = '\\' ∧ quote = '"' then
        let (y, c) ← escaped? c
        let (more, c) ← quotedFrom? quote indent fuel c
        return (y :: more, c)
      else
        let (more, c) ← quotedFrom? quote indent fuel c.next
        return (x :: more, c)

/-- A text in quotes. Behind it the line must end, or what it is part of must
    go on: in brackets with one of their signs, or with a colon in its line. -/
def quoted? (quote : Char) (indent : Int) (inBrackets : Bool) (c : Cursor) :
    Option (List Char × Cursor) := do
  let (text, after) ← quotedFrom? quote indent (c.rest.length + 1) c.next
  let after ← after.gap?
  let goesOn := match after.rest with
    | x :: _ =>
      if inBrackets then x = ',' || x = '}' || x = ']' || x = ':'
      else x = ':' && after.line = c.line
    | [] => false
  if endsLine after.rest || goesOn then some (text, after) else none

/-! ## Texts without quotes -/

/-- The characters of a word without quotes. -/
def plainWord (inBrackets : Bool) : List Char → List Char
  | [] => []
  | x :: rest =>
    if endsWord (x :: rest) then []
    else if x = ':' && (endsWord rest || (inBrackets && beginsBracketSign rest)) then []
    else if inBrackets && isBracketSign x then []
    else x :: plainWord inBrackets rest

/-- The words of a text without quotes, the place behind them, and whether
    that is in a line behind the last word. -/
def plainFrom? (indent : Int) (inBrackets : Bool) :
    Nat → Cursor → Option (List Char × Cursor × Bool)
  | 0, _ => none
  | fuel + 1, c => do
    let isHyphen := match c.rest with
      | '-' :: rest => inBrackets && beginsBracketSign rest
      | _ => false
    if c.isAtDocumentMark || c.rest.head? = some '#' then return ([], c, false)
    else if isHyphen then none
    else
      let word := plainWord inBrackets c.rest
      let behind := c.skip word.length
      if !endsWord behind.rest || behind.rest.isEmpty then return (word, behind, false)
      else
        let (fold, start) ← plainFold? indent behind
        if !inBrackets && start.column < indent then return (word, start, fold.lineEnds > 0)
        else
          let (more, last, inNewLine) ← plainFrom? indent inBrackets fuel start
          if more.isEmpty then return (word, last, fold.lineEnds > 0)
          else return (word ++ fold.text ++ more, last, inNewLine)

/-- A text without quotes, within a block whose lines stand so far to the
    right. -/
def plainText? (column : Int) (inBrackets : Bool) (c : Cursor) :
    Option (List Char × Cursor × Bool) :=
  if inBrackets && c.column < column + 1 then none
  else plainFrom? (column + 1) inBrackets (c.rest.length + 1) c

end Loyalty.Yaml
