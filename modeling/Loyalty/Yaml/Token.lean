import Loyalty.Yaml.Folded
import Loyalty.Yaml.Lines

/-!
# Tokens of YAML

A text is cut into tokens: signs, scalars, and marks that stand nowhere in the
text but follow from its columns, where a list or a table of lines begins and
where it ends.

A key needs no sign in front. Where one may begin, the place is remembered as a
`Candidate`; if a colon follows in the same line, the mark of the key is put in
front of what was read since, and with it the start of a table if the key
stands further to the right than the block around it.

Reading goes token by token over a `State`; each token takes at least one
character.
-/

namespace Loyalty.Yaml

/-- A token. -/
inductive Token
  /-- the version of YAML that a document asks for -/
  | version
  /-- what the handle of a tag stands for -/
  | handle (name target : String)
  | documentStart
  | documentEnd
  /-- a list of lines begins -/
  | listStart
  /-- a table of lines begins -/
  | tableStart
  /-- a list or a table of lines ends -/
  | blockEnd
  | openBracket
  | closeBracket
  | openBrace
  | closeBrace
  | comma
  /-- the hyphen of an item -/
  | item
  | key
  | value
  /-- the name of the node that follows -/
  | anchor (name : String)
  /-- the node of a name once more -/
  | reference (name : String)
  | tag (handle kind : String)
  /-- a text, with or without quotes -/
  | scalar (isPlain : Bool) (text : List Char)
  deriving DecidableEq, Repr

/-! ## States -/

/-- A place where a key without a sign may begin. -/
structure Candidate where
  /-- the number of tokens before it -/
  place : Nat
  line : Nat
  column : Nat
  index : Nat
  /-- no other thing than a key can stand there -/
  isNeeded : Bool
  deriving DecidableEq, Repr

/-- A block: how far the block around it stands to the right, and whether it is
    a list or table of lines or only what must be indented. -/
structure Level where
  outer : Int
  isBlock : Bool
  deriving DecidableEq, Repr

/-- How far a text has been read. -/
structure State where
  cursor : Cursor
  tokens : Array Token
  /-- how far the current block stands to the right; -1 outside of all -/
  column : Int
  levels : List Level
  /-- the brackets and braces that are open; whether each is a bracket -/
  brackets : List Bool
  /-- the candidates, one for each open bracket and brace and one outside -/
  candidates : List (Option Candidate)
  /-- whether a key without a sign may begin at the next token -/
  mayBeginKey : Bool
  /-- the index at which a colon needs no white space behind it -/
  freeColon : Option Nat

namespace State

/-- The start of a text. -/
def ofText (cs : List Char) : State where
  cursor := .ofText cs
  tokens := #[]
  column := -1
  levels := []
  brackets := []
  candidates := [none]
  mayBeginKey := true
  freeColon := none

/-- Whether a bracket or a brace is open. -/
def inBrackets (s : State) : Bool := !s.brackets.isEmpty

/-- A state with one more token. -/
def push (t : Token) (s : State) : State := { s with tokens := s.tokens.push t }

/-- A state with a token put in front of all but the first `n`. -/
def insert (n : Nat) (t : Token) (s : State) : State :=
  { s with tokens := (s.tokens.extract 0 n).push t ++ s.tokens.extract n s.tokens.size }

/-- A state that is `n` characters further. -/
def skip (n : Nat) (s : State) : State := { s with cursor := s.cursor.skip n }

/-- A state behind the blanks and the remark at its place. -/
def skipGap? (s : State) : Option State := s.cursor.gap?.map fun c => { s with cursor := c }

/-! ### Blocks -/

/-- A state in which the blocks further to the right than a column are over;
    the levels are those of the state. -/
def closeFrom (column : Int) : List Level → State → State
  | [], s => s
  | level :: outer, s =>
    if s.column ≤ column then s
    else
      let s := if level.isBlock then s.push .blockEnd else s
      closeFrom column outer { s with column := level.outer, levels := outer }

/-- A state in which the blocks further to the right than a column are over;
    within brackets columns do not count. -/
def close (column : Int) (s : State) : State :=
  if s.inBrackets then s else closeFrom column s.levels s

/-- A state in which the blocks that are only indented are over. -/
def closeIndented : List Level → State → State
  | [], s => s
  | level :: outer, s =>
    if level.isBlock then s
    else closeIndented outer { s with column := level.outer, levels := outer }

/-- A state in which what follows must be indented. -/
def indent (s : State) : State :=
  if !s.inBrackets && s.levels.head?.any Level.isBlock then
    { s with levels := ⟨s.column, false⟩ :: s.levels, column := s.column + 1 }
  else s

/-- A state in which a block begins in a column, if that is further to the
    right: its token is put in front of all but the first `n`. -/
def openBlock (column : Int) (n : Nat) (t : Token) (s : State) : State :=
  if s.inBrackets then s
  else
    let s := match s.levels with
      | level :: outer =>
        if s.column ≤ column && !level.isBlock then
          { s with column := level.outer, levels := outer }
        else s
      | [] => s
    if s.column < column then
      let s := s.insert n t
      { s with levels := ⟨s.column, true⟩ :: s.levels, column := column }
    else s

/-! ### Keys without a sign -/

/-- A state that remembers its place as one where a key may begin. -/
def remember (s : State) : State :=
  if s.mayBeginKey then
    let candidate : Candidate :=
      { place := s.tokens.size
        line := s.cursor.line
        column := s.cursor.column
        index := s.cursor.index
        isNeeded := !s.inBrackets && s.column = s.cursor.column &&
          s.levels.head?.any Level.isBlock }
    { s with candidates := some candidate :: s.candidates.drop 1 }
  else s

/-- A state whose candidate is no key; nothing if it has to be one. -/
def forget? (s : State) : Option State :=
  match s.candidates with
  | some k :: rest => if k.isNeeded then none else some { s with candidates := none :: rest }
  | _ => some s

/-- The longest key without a sign, in characters. -/
def keyLimit : Nat := 1024

/-- A state without the candidates that are too far behind: outside of brackets
    a key stands in one line. -/
def dropStale? (s : State) : Option State :=
  if s.inBrackets then some s
  else do
    let candidates ← s.candidates.mapM fun k => match k with
      | none => some none
      | some k =>
        if k.line < s.cursor.line ∨ k.index + keyLimit < s.cursor.index then
          if k.isNeeded then none else some none
        else some (some k)
    return { s with candidates }

/-- A state in which a key without a sign may begin, or may not. -/
def allowKey (allowed : Bool) (s : State) : State := { s with mayBeginKey := allowed }

/-! ### Between tokens -/

/-- A state behind white space and remarks. A tab does not count as
    indentation. -/
def skipToToken? : Nat → State → Option State
  | 0, s => some s
  | fuel + 1, s =>
    match s.cursor.rest with
    | '\t' :: _ =>
      if !s.levels.isEmpty && s.cursor.isIndented && s.cursor.column < s.column then
        s.cursor.restOfLine?.bind fun c => skipToToken? fuel { s with cursor := c }
      else skipToToken? fuel (s.skip 1)
    | ' ' :: _ => skipToToken? fuel (s.skip 1)
    | '\n' :: _ =>
      skipToToken? fuel ((s.skip 1).allowKey (s.mayBeginKey || !s.inBrackets))
    | '#' :: _ => skipToToken? fuel { s with cursor := s.cursor.lineEnd }
    | _ => some s

/-! ### Signs -/

/-- A state behind an opening bracket or brace. -/
def openBrackets? (isBracket : Bool) (s : State) : Option State := do
  let s := s.remember.indent
  let s := { s with brackets := isBracket :: s.brackets, candidates := none :: s.candidates }
  let s ← ((s.allowKey true).skip 1).skipGap?
  return s.push (if isBracket then .openBracket else .openBrace)

/-- A state behind a closing bracket or brace. -/
def closeBrackets? (t : Token) (s : State) : Option State := do
  let s ← s.forget?
  let s :=
    if s.inBrackets then
      { s with brackets := s.brackets.drop 1, candidates := s.candidates.drop 1 }
    else s
  let s ← ((s.allowKey false).skip 1).skipGap?
  let s := if s.inBrackets then { s with freeColon := some s.cursor.index } else s
  return s.push t

/-- A state behind a comma. -/
def comma? (s : State) : Option State := do
  let s ← s.forget?
  let s ← ((s.allowKey true).skip 1).skipGap?
  return s.push .comma

/-- A state behind the hyphen of an item. -/
def item? (s : State) : Option State := do
  if s.inBrackets || !s.mayBeginKey then none
  else
    let column := s.cursor.column
    let s := (s.skip 1).openBlock column s.tokens.size .listStart
    let hasTab := (s.cursor.rest.takeWhile isSpace).contains '\t'
    let s ← s.skipGap?
    let isItem := match s.cursor.rest with
      | '-' :: rest => endsWord rest
      | _ => false
    if hasTab && isItem then none
    else
      let isBroken := match s.cursor.rest with
        | x :: _ => x = '\n' || isBracketSign x
        | [] => false
      let s := if isBroken then s.indent else s
      let s ← s.forget?
      return (s.allowKey true).push .item

/-- A state behind the question mark of a key. -/
def explicitKey? (s : State) : Option State := do
  if !s.inBrackets && !s.mayBeginKey then none
  else
    let s := s.openBlock s.cursor.column s.tokens.size .tableStart
    let s ← s.forget?
    let s := ((s.allowKey !s.inBrackets).skip 1)
    let s := { s with cursor := s.cursor.skipWhile (· = ' ') }
    if s.cursor.rest.head? = some '\t' then none else return s.push .key

/-- Whether a text begins with a letter, a digit, a hyphen or a low line. -/
def beginsName (cs : List Char) : Bool :=
  cs.head?.any fun c => c.isAlphanum || c = '-' || c = '_'

/-- A state behind the colon of a value. The candidate before it is a key;
    without one, the sign of the key stands before or the key is empty. -/
def value? (s : State) : Option State := do
  let colon := s.cursor
  let candidate := s.candidates.head?.join
  let s := s.skip 1
  let blanks := s.cursor.rest.takeWhile isSpace
  let s ← if s.cursor.rest.head? = some '\t' then s.skipGap? else some s
  if blanks.head? = some '\t' ∧ ' ' ∉ blanks ∧ beginsName s.cursor.rest then none
  else
    match candidate with
    | some k =>
      if s.brackets.head? = some true ∧ k.line < colon.line then none
      else
        let s := ((s.insert k.place .key).openBlock k.column k.place .tableStart).indent
        let s := { s with candidates := none :: s.candidates.drop 1 }
        return (s.allowKey false).push .value
    | none =>
      if !s.inBrackets && !s.mayBeginKey then none
      else
        let s := (s.openBlock colon.column s.tokens.size .tableStart).indent
        return (s.allowKey !s.inBrackets).push .value

/-! ### Names and tags -/

/-- Whether a character may stand in the name of a node. -/
def isAnchorChar (c : Char) : Bool := !isSpace c && c ≠ '\n' && !isBracketSign c

/-- A state behind the name of a node, or a reference to one. -/
def name? (toToken : String → Token) (s : State) : Option State :=
  let s := (s.remember.allowKey false).skip 1
  let name := s.cursor.rest.takeWhile isAnchorChar
  if name.isEmpty then none else some ((s.skip name.length).push (toToken (.ofList name)))

/-- Whether a character may stand in the handle of a tag. -/
def isHandleChar (c : Char) : Bool := c.isAlphanum || c = '_' || c = '-'

/-- Whether a character may stand in a tag behind its handle. -/
def isTagChar (c : Char) : Bool := isHandleChar c || "#;/?:@&=+$.~*\x27()%".toList.contains c

/-- Handle and kind of a tag, and its length; the text is what stands behind
    its first exclamation mark. -/
def tagOf? (cs : List Char) : Option (String × String × Nat) :=
  match cs with
  | '<' :: rest =>
    let uri := rest.takeWhile (· != '>')
    if rest.length = uri.length || !uri.all (fun c => isTagChar c || "!,[]".toList.contains c)
    then none
    else some ("", .ofList uri, uri.length + 3)
  | cs =>
    let word := cs.takeWhile isHandleChar
    match cs.drop word.length with
    | '!' :: rest =>
      let kind := rest.takeWhile isTagChar
      if kind.isEmpty then none
      else some (.ofList ('!' :: word ++ ['!']), .ofList kind, word.length + kind.length + 2)
    | rest =>
      let kind := word ++ rest.takeWhile isTagChar
      if kind.isEmpty then some ("", "!", 1)
      else some ("!", .ofList kind, kind.length + 1)

/-- A state behind a tag. -/
def tag? (s : State) : Option State := do
  let s := s.remember.allowKey false
  let (handle, kind, length) ← tagOf? (s.cursor.rest.drop 1)
  let s := s.skip length
  if endsWord s.cursor.rest || (s.inBrackets && beginsBracketSign s.cursor.rest) then
    return s.push (.tag handle kind)
  else none

/-! ### Scalars -/

/-- A state behind a text in quotes. -/
def quoted? (quote : Char) (s : State) : Option State := do
  let s := s.remember.allowKey false
  let (text, c) ← Yaml.quoted? quote s.column s.inBrackets s.cursor
  let s ← skipToToken? (c.rest.length + 1) { s with cursor := c }
  return { s with freeColon := some s.cursor.index }.push (.scalar false text)

/-- A state behind a text without quotes. -/
def plain? (s : State) : Option State := do
  let s := s.remember.allowKey false
  let s := closeIndented s.levels s
  let (text, c, inNewLine) ← plainText? s.column s.inBrackets s.cursor
  return ({ s with cursor := c }.allowKey inNewLine).push (.scalar true text)

/-- A state behind a text of lines. -/
def lines? (s : State) : Option State := do
  let s := s.remember.allowKey true
  let s := closeIndented s.levels s
  let (text, c) ← lineText? s.column s.cursor
  return { s with cursor := c }.push (.scalar false text)

/-! ### Documents -/

/-- What the words of a directive say. -/
def directive? (words : List (List Char)) : Option Token :=
  match words with
  | [name, version] =>
    if name = "YAML".toList then
      let major := version.takeWhile Char.isDigit
      let minor := version.drop (major.length + 1)
      if !major.isEmpty && (version.drop major.length).head? = some '.' && !minor.isEmpty &&
          minor.all Char.isDigit then some .version
      else none
    else if name = "TAG".toList then none
    else some (.handle "" "")
  | [name, handle, target] =>
    if name = "YAML".toList then none
    else if name = "TAG".toList then some (.handle (.ofList handle) (.ofList target))
    else some (.handle "" "")
  | name :: _ =>
    if name = "YAML".toList ∨ name = "TAG".toList then none else some (.handle "" "")
  | [] => none

/-- The words between blanks. -/
def words (cs : List Char) : List (List Char) :=
  cs.foldr
    (fun c ws => match ws with
      | w :: rest => if isSpace c then [] :: w :: rest else (c :: w) :: rest
      | [] => if isSpace c then [[], []] else [[c]])
    [] |>.filter (!·.isEmpty)

/-- A state behind a line that begins with a percent sign. -/
def directiveLine? (s : State) : Option State := do
  let s ← (s.close (-1)).forget?
  let line := (s.cursor.rest.drop 1).takeWhile (· != '\n')
  let t ← directive? ((words line).takeWhile fun w => w.head? ≠ some '#')
  return { s with cursor := s.cursor.lineEnd }.allowKey false |>.push t

/-- A state behind the mark of a document. -/
def documentMark? (t : Token) (s : State) : Option State := do
  let s ← (s.close (-1)).forget?
  return ((s.allowKey false).skip 3).push t

/-! ### All tokens -/

/-- A state behind the next token, which begins at its place. -/
def token? (s : State) : Option State :=
  match s.cursor.rest with
  | [] => none
  | c :: rest =>
    if c = '[' then s.openBrackets? true
    else if c = '{' then s.openBrackets? false
    else if c = ']' then s.closeBrackets? .closeBracket
    else if c = '}' then s.closeBrackets? .closeBrace
    else if c = ',' then s.comma?
    else if c = '-' ∧ endsWord rest then s.item?
    else if c = '?' ∧ endsWord rest then s.explicitKey?
    else if c = ':' ∧ (endsWord rest ∨
        s.inBrackets ∧ (beginsBracketSign rest ∨ s.freeColon = some s.cursor.index)) then
      s.value?
    else if c = '*' then s.name? .reference
    else if c = '&' then s.name? .anchor
    else if c = '!' then s.tag?
    else if (c = '|' ∨ c = '>') ∧ !s.inBrackets then s.lines?
    else if c = '\x27' ∨ c = '"' then s.quoted? c
    else if c = '%' ∨ c = '@' ∨ c = '\x60' then none
    else s.plain?

/-- What comes next at the place of a state: a token, or the end. -/
inductive Step
  | more (s : State)
  | done (tokens : List Token)

/-- The next step. A line further to the left ends blocks. -/
def step? (s : State) : Option Step := do
  let s ← (← skipToToken? (s.cursor.rest.length + 1) s).dropStale?
  let s := s.close s.cursor.column
  if s.cursor.rest.isEmpty then
    let s ← s.candidates.foldlM
      (fun s k => if k.any Candidate.isNeeded then none else some s) s
    return .done (s.close (-1)).tokens.toList
  else if s.cursor.column = 0 ∧ s.cursor.rest.head? = some '%' then
    return .more (← s.directiveLine?)
  else if s.cursor.isAtMark '-' then return .more (← s.documentMark? .documentStart)
  else if s.cursor.isAtMark '.' then
    let s ← s.documentMark? .documentEnd
    let c ← s.cursor.restOfLine?
    return .more { s with cursor := c }
  else if s.cursor.column < s.column then none
  else return .more (← s.token?)

/-- The tokens from a state on. -/
def tokensFrom? : Nat → State → Option (List Token)
  | 0, _ => none
  | fuel + 1, s => do
    match ← s.step? with
    | .more s => tokensFrom? fuel s
    | .done ts => return ts

end State

/-- The tokens of a text. -/
def tokens? (cs : List Char) : Option (List Token) :=
  State.tokensFrom? (cs.length + 2) (.ofText cs)

end Loyalty.Yaml
