import Loyalty.Text.Number
import Loyalty.Text.Split
import Loyalty.Text.Utf8

/-!
# Requests and responses

A request has a method, a target, headers and a body of bytes. Of several
headers of one name the first counts, and its value is a text only if all its
bytes are printable ASCII or tabs. A response has its body as it is before a
coding packs it.
-/

namespace Loyalty.Http

open Loyalty.Text

/-- What a client sends. -/
structure Request where
  method : String
  target : String
  /-- names in lower case, with their values -/
  headers : List (String × List UInt8)
  body : List UInt8

/-- What a client gets. -/
structure Response where
  status : Nat
  headers : List (String × String)
  body : String
  deriving DecidableEq

namespace Request

/-- The values of all headers of some name. -/
def headerValues (r : Request) (name : String) : List (List UInt8) :=
  (r.headers.filter (·.1 = name)).map (·.2)

/-- A header value that is a text. -/
def printable? (value : List UInt8) : Option String :=
  if value.all fun b => (0x20 ≤ b && b < 0x7F) || b = 0x09 then
    some (.ofList (value.map fun b => Char.ofNat b.toNat))
  else none

/-- The text of the first header of some name. -/
def header? (r : Request) (name : String) : Option String :=
  (r.headerValues name).head?.bind printable?

/-- The number in the header `content-length`, if there is one. -/
def contentLength? (r : Request) : Option Nat :=
  (r.header? "content-length").bind fun value => natural? word64Max value.toList

/-- The path of a target: what stands before a question mark or a hash, without
    the scheme and the host. -/
def pathOf (target : List Char) : List Char :=
  let resource := target.takeWhile fun c => c != '?' && c != '#'
  let afterScheme (cs : List Char) : Option (List Char) :=
    match splitFirst ':' cs with
    | some (_, rest) => dropStart? ['/', '/'] rest
    | none => none
  match resource with
  | '/' :: _ => resource
  | _ =>
    match afterScheme resource with
    | some rest =>
      let path := rest.dropWhile (· != '/')
      if path.isEmpty then ['/'] else path
    | none => resource

/-- The path that a request is for. -/
def path (r : Request) : String := .ofList (pathOf r.target.toList)

end Request

namespace Response

/-- The kind of a body that is a text. -/
def textType : String := "text/plain; charset=utf-8"

/-- The kind of a body that is JSON. -/
def jsonType : String := "application/json"

/-- A response without a body. -/
def bare (status : Nat) : Response := ⟨status, [], ""⟩

/-- A response with a text. -/
def plain (status : Nat) (body : String) : Response := ⟨status, [("content-type", textType)], body⟩

/-- A response with a JSON document. -/
def json (body : List Char) : Response := ⟨200, [("content-type", jsonType)], .ofList body⟩

/-- A response with a further header. -/
def withHeader (r : Response) (name value : String) : Response :=
  { r with headers := r.headers ++ [(name, value)] }

/-- Whether the request was carried out. -/
def isSuccess (r : Response) : Bool := 200 ≤ r.status && r.status < 300

end Response
end Loyalty.Http
