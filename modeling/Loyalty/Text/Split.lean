/-!
# Cutting a text at a character

`splitAll` cuts at every occurrence of a separator, `splitFirst` and
`splitLast` at the first and at the last one only; the separator itself is
dropped. They work on lists of characters, where each is a plain recursion.
-/

namespace Loyalty.Text

variable {α : Type} [DecidableEq α]

/-- What stands before and after the first `sep`, if there is one. -/
def splitFirst (sep : α) : List α → Option (List α × List α)
  | [] => none
  | c :: cs =>
    if c = sep then some ([], cs)
    else (splitFirst sep cs).map fun (before, after) => (c :: before, after)

/-- What stands before and after the last `sep`, if there is one. -/
def splitLast (sep : α) : List α → Option (List α × List α)
  | [] => none
  | c :: cs =>
    match splitLast sep cs with
    | some (before, after) => some (c :: before, after)
    | none => if c = sep then some ([], cs) else none

/-- The pieces between the occurrences of `sep`: one more than there are
    separators, some of them perhaps empty. -/
def splitAll (sep : α) : List α → List (List α)
  | [] => [[]]
  | c :: cs =>
    match splitAll sep cs with
    | [] => [[c]]
    | piece :: rest => if c = sep then [] :: piece :: rest else (c :: piece) :: rest

/-- The rest of a list that begins with `start`. -/
def dropStart? (start : List α) (cs : List α) : Option (List α) :=
  match start, cs with
  | [], rest => some rest
  | _ :: _, [] => none
  | s :: start, c :: cs => if s = c then dropStart? start cs else none

/-- Whether `part` stands somewhere in the list. -/
def hasPart (part : List α) : List α → Bool
  | [] => (dropStart? part []).isSome
  | c :: cs => (dropStart? part (c :: cs)).isSome || hasPart part cs

end Loyalty.Text
