import Loyalty.Yaml.Scalar
import Loyalty.Yaml.Token

/-!
# Documents of YAML

A document is a *node*: a scalar, a list or a table, whose parts are nodes. A
node may have a name, by which it can stand in other places once more, and a
tag. Where a node is missing, it is null. The keys of a table are texts and
integers, no two of them equal.

Every reader takes tokens from the front of a list and answers with the rest,
and with the names of nodes that are known from there on; it answers nothing
where the tokens are no YAML.
-/

namespace Loyalty.Yaml

open Loyalty.Text Loyalty.Settings

/-- The nodes that have names; the last that got a name comes first. -/
abbrev Names := List (String × Datum)

/-- What is read: something, the names that are known behind it, and the tokens
    behind it. -/
abbrev Parsed (α : Type) := α × Names × List Token

/-! ## Keys -/

/-- A key. -/
inductive Key
  | text (s : String)
  | integer (n : Int)
  deriving DecidableEq, Repr

/-- The key that a datum is. -/
def Key.ofDatum? : Datum → Option Key
  | .text s => some (.text s)
  | .integer n => some (.integer n)
  | _ => none

/-- The name that a key stands for. -/
def Key.name : Key → String
  | text s => s
  | integer n => .ofList (integerChars n)

/-- Entries with one more in front, whose key must be new. -/
def addEntry? (key : Datum) (d : Datum) (entries : List (Key × Datum)) :
    Option (List (Key × Datum)) := do
  let key ← Key.ofDatum? key
  if (entries.lookup key).isSome then none else return (key, d) :: entries

/-- The table of some entries. -/
def tableOf (entries : List (Key × Datum)) : Datum :=
  .table (entries.map fun (key, d) => (key.name, d))

/-! ## What stands before a node -/

/-- The name and the tag of a node. -/
structure Marks where
  name : Option String
  tag : Option (String × String)

/-- The name and the tag of the node that follows, in either order. -/
def marks (ts : List Token) : Marks × List Token :=
  match ts with
  | .anchor name :: .tag handle kind :: rest => (⟨some name, some (handle, kind)⟩, rest)
  | .tag handle kind :: .anchor name :: rest => (⟨some name, some (handle, kind)⟩, rest)
  | .anchor name :: rest => (⟨some name, none⟩, rest)
  | .tag handle kind :: rest => (⟨none, some (handle, kind)⟩, rest)
  | rest => (⟨none, none⟩, rest)

/-- What a scalar stands for. -/
def scalar? (tag : Option (String × String)) (isPlain : Bool) (text : List Char) : Option Datum :=
  match tag with
  | none => if isPlain then plain? text else some (.text (.ofList text))
  | some (handle, kind) =>
    if isPlain then tagged? handle kind text else some (.text (.ofList text))

/-! ## Where a node is missing -/

/-- Whether what follows in a list of lines is no node. -/
def endsItem : List Token → Bool
  | .item :: _ | .blockEnd :: _ => true
  | _ => false

/-- Whether what follows in a table of lines is no node. -/
def endsEntry : List Token → Bool
  | .key :: _ | .value :: _ | .blockEnd :: _ => true
  | _ => false

/-- Whether what follows in brackets is no node. -/
def endsInBrackets : List Token → Bool
  | .comma :: _ | .value :: _ | .closeBracket :: _ | .closeBrace :: _ => true
  | _ => false

/-! ## Nodes -/

mutual

/-- A node. A list or table of lines is one only `inLines`, and hyphens that
    stand no further to the right only where that is `flat`. -/
def node? (inLines flat : Bool) : Nat → Names → List Token → Option (Parsed Datum)
  | 0, _, _ => none
  | fuel + 1, names, ts =>
    match ts with
    | .reference name :: rest => (names.lookup name).map fun d => (d, names, rest)
    | ts =>
      match marks ts with
      | (⟨none, tag⟩, rest) => bare? inLines flat tag.isSome tag fuel names rest
      | (⟨some name, tag⟩, rest) =>
        (bare? inLines flat true tag fuel ((name, .null) :: names) rest).map
          fun (d, names, rest) => (d, (name, d) :: names, rest)

/-- A node without the marks before it, which may be missing if it has any. -/
def bare? (inLines flat hasMarks : Bool) (tag : Option (String × String)) :
    Nat → Names → List Token → Option (Parsed Datum)
  | 0, _, _ => none
  | fuel + 1, names, ts =>
    match ts with
    | .scalar isPlain text :: rest => (scalar? tag isPlain text).map fun d => (d, names, rest)
    | .openBracket :: rest =>
      (bracketed? true fuel names rest).map fun (ds, r) => (.list ds, r)
    | .openBrace :: rest =>
      (braced? true fuel names rest).map fun (es, r) => (tableOf es, r)
    | .item :: _ =>
      if flat then (flatItems? fuel names ts).map fun (ds, r) => (.list ds, r)
      else none
    | .listStart :: rest =>
      if inLines then (items? fuel names rest).map fun (ds, r) => (.list ds, r) else none
    | .tableStart :: rest =>
      if inLines then (entries? fuel names rest).map fun (es, r) => (tableOf es, r) else none
    | rest =>
      if hasMarks then (scalar? tag true []).map fun d => (d, names, rest) else none

/-- The items of a list of lines. -/
def items? : Nat → Names → List Token → Option (Parsed (List Datum))
  | 0, _, _ => none
  | fuel + 1, names, ts => do
    match ts with
    | .blockEnd :: rest => return ([], names, rest)
    | .item :: rest =>
      let (d, names, rest) ←
        if endsItem rest then some (.null, names, rest) else node? true false fuel names rest
      let (ds, names, rest) ← items? fuel names rest
      return (d :: ds, names, rest)
    | _ => none

/-- The items whose hyphens stand no further to the right than the keys around
    them. -/
def flatItems? : Nat → Names → List Token → Option (Parsed (List Datum))
  | 0, _, _ => none
  | fuel + 1, names, ts => do
    match ts with
    | .item :: rest =>
      let (d, names, rest) ←
        if endsItem rest || endsEntry rest then some (.null, names, rest)
        else node? true false fuel names rest
      let (ds, names, rest) ← flatItems? fuel names rest
      return (d :: ds, names, rest)
    | rest => return ([], names, rest)

/-- The entries of a table of lines. -/
def entries? : Nat → Names → List Token → Option (Parsed (List (Key × Datum)))
  | 0, _, _ => none
  | fuel + 1, names, ts => do
    match ts with
    | .blockEnd :: rest => return ([], names, rest)
    | .key :: rest =>
      let (key, names, rest) ← node? true true fuel names rest
      let (d, names, rest) ← match rest with
        | .value :: rest =>
          if endsEntry rest then some (.null, names, rest) else node? true true fuel names rest
        | rest => some (.null, names, rest)
      let (more, names, rest) ← entries? fuel names rest
      return (← addEntry? key d more, names, rest)
    | _ => none

/-- The value behind a key within brackets or braces. -/
def bracketValue? : Nat → Names → List Token → Option (Parsed Datum)
  | 0, _, _ => none
  | fuel + 1, names, ts =>
    match ts with
    | .value :: rest =>
      if endsInBrackets rest then some (.null, names, rest)
      else node? false false fuel names rest
    | rest => some (.null, names, rest)

/-- The items up to a closing bracket. An entry alone is a table of its own. -/
def bracketed? (isFirst : Bool) : Nat → Names → List Token → Option (Parsed (List Datum))
  | 0, _, _ => none
  | fuel + 1, names, ts => do
    match ts with
    | .closeBracket :: rest => return ([], names, rest)
    | ts =>
      let ts ← match isFirst, ts with
        | true, ts => some ts
        | false, .comma :: rest => some rest
        | false, _ => none
      match ts with
      | .closeBracket :: rest => return ([], names, rest)
      | .key :: rest =>
        let (key, names, rest) ← node? false false fuel names rest
        let (d, names, rest) ← bracketValue? fuel names rest
        let entry ← addEntry? key d []
        let (ds, names, rest) ← bracketed? false fuel names rest
        return (tableOf entry :: ds, names, rest)
      | ts =>
        let (d, names, rest) ← node? false false fuel names ts
        let (ds, names, rest) ← bracketed? false fuel names rest
        return (d :: ds, names, rest)

/-- The entries up to a closing brace. A node alone is a key without a value. -/
def braced? (isFirst : Bool) : Nat → Names → List Token → Option (Parsed (List (Key × Datum)))
  | 0, _, _ => none
  | fuel + 1, names, ts => do
    match ts with
    | .closeBrace :: rest => return ([], names, rest)
    | ts =>
      let ts ← match isFirst, ts with
        | true, ts => some ts
        | false, .comma :: rest => some rest
        | false, _ => none
      match ts with
      | .closeBrace :: rest => return ([], names, rest)
      | .key :: rest =>
        let (key, names, rest) ← node? false false fuel names rest
        let (d, names, rest) ← bracketValue? fuel names rest
        let (more, names, rest) ← braced? false fuel names rest
        return (← addEntry? key d more, names, rest)
      | ts =>
        let (key, names, rest) ← node? false false fuel names ts
        let (more, names, rest) ← braced? false fuel names rest
        return (← addEntry? key .null more, names, rest)

end

/-! ## Documents -/

/-- What the handle of a tag stands for in its document. Two exclamation marks
    stand for the handle of the kinds unless the document says otherwise; what
    a word between two of them stands for must be told. -/
def resolveHandle? (handles : List (String × String)) (handle : String) : Option String :=
  match handles.lookup handle with
  | some target => some target
  | none =>
    if handle = "!!" then some kindHandle
    else if handle.length ≥ 2 then none
    else some handle

/-- Tokens with the handles of their tags resolved. -/
def resolveTags? (handles : List (String × String)) (ts : List Token) : Option (List Token) :=
  ts.mapM fun t => match t with
    | .tag handle kind => (resolveHandle? handles handle).map fun h => .tag h kind
    | t => some t

/-- The lines about tags before a document, and the tokens behind them; a
    version or a handle is told only once. -/
def directives? : Bool → List (String × String) → List Token →
    Option (List (String × String) × List Token)
  | hasVersion, handles, .version :: rest =>
    if hasVersion then none else directives? true handles rest
  | hasVersion, handles, .handle name target :: rest =>
    if (handles.lookup name).isSome then none
    else directives? hasVersion ((name, target) :: handles) rest
  | _, handles, .documentStart :: rest => some (handles, rest)
  | hasVersion, handles, rest =>
    if hasVersion || !handles.isEmpty then none else some ([], rest)

/-- The entries of the only document of a text, which is a table. A text
    without a document has none. -/
def read? (s : String) : Option (List (String × Datum)) := do
  let ts ← tokens? s.toList
  match ts.dropWhile (· = .documentEnd) with
  | [] => return []
  | ts =>
    let (handles, ts) ← directives? false [] ts
    let ts ← resolveTags? handles ts
    let (d, _, rest) ← node? true false (4 * ts.length + 4) [] ts
    match d with
    | .table entries => if rest.all (· = .documentEnd) then return entries else none
    | _ => none

end Loyalty.Yaml
