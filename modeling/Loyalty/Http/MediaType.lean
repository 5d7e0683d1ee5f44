import Loyalty.Text.Split

/-!
# Media types

A media type is `type/subtype` with parameters behind semicolons, each a name
and a value, which may be quoted. A subtype may end in a suffix behind its last
plus sign. A document is JSON if its type is `application` and its subtype or
its suffix is `json`, in any case.
-/

namespace Loyalty.Http.MediaType

open Loyalty.Text

/-- Whether a character may stand in a name. -/
def isToken (c : Char) : Bool :=
  ('0' ≤ c && c ≤ '9') || ('a' ≤ c && c ≤ 'z') || ('A' ≤ c && c ≤ 'Z') ||
    "!#$%&'*+-.^_|~".toList.contains c || c.toNat = 0x60

/-- Whether a character may stand between quotes: no control character. -/
def isQuotable (c : Char) : Bool := c.toNat > 31 && c.toNat != 127

/-- The rest behind a quoted value, whose first character is never its end. -/
def quotedRest? (cs : List Char) : Option (List Char) :=
  match cs with
  | [] => none
  | first :: more =>
    let value := first :: more.takeWhile (· != '"')
    match more.dropWhile (· != '"') with
    | _ :: rest =>
      match value.all isQuotable, rest.dropWhile (· = ' ') with
      | true, [] => some []
      | true, ';' :: rest => some rest
      | _, _ => none
    | [] => none

/-- Whether some characters are parameters. -/
def areParameters : Nat → List Char → Bool
  | 0, cs => cs.isEmpty
  | fuel + 1, cs =>
    match cs.dropWhile (· = ' ') with
    | [] => true
    | cs =>
      let name := cs.takeWhile fun c => isToken c
      match name, cs.drop name.length with
      | _ :: _, '=' :: '"' :: rest =>
        match quotedRest? rest with
        | some rest => areParameters fuel rest
        | none => false
      | _ :: _, '=' :: rest =>
        let value := rest.takeWhile fun c => isToken c
        match value, rest.drop value.length with
        | _, [] => true
        | _ :: _, ';' :: rest => areParameters fuel rest
        | _, _ => false
      | _, _ => false

/-- The letters of a name in lower case. -/
def lower (cs : List Char) : List Char := cs.map Char.toLower

/-- Whether a subtype or its suffix is `json`. -/
def isJsonSubtype (subtype : List Char) : Bool :=
  match splitLast '+' subtype with
  | some (before, suffix) =>
    if before.isEmpty then lower subtype = "json".toList
    else lower before = "json".toList || lower suffix = "json".toList
  | none => lower subtype = "json".toList

/-- Whether a media type is that of a JSON document. -/
def isJson (value : String) : Bool :=
  let cs := value.toList
  let kind := cs.takeWhile fun c => isToken c
  match cs.drop kind.length with
  | '/' :: rest =>
    let subtype := rest.takeWhile fun c => isToken c
    let wellFormed :=
      match subtype, rest.drop subtype.length with
      | [], _ => false
      | _, [] => true
      | _, ';' :: parameters => areParameters (parameters.length + 1) parameters
      | _, _ => false
    wellFormed && lower kind = "application".toList && isJsonSubtype subtype
  | _ => false

end Loyalty.Http.MediaType
