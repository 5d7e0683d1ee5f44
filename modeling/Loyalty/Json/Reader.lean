import Loyalty.Json.Scan

/-!
# Reading values of a kind

A value is read as what is asked for: a text, an integer, a record. Anything
else that stands in its place is read through as far as it can be, so that a
text that is no JSON is told apart from one with the wrong kind of value.

A record is read from an object, in any order of its keys, or from a list of
its values in order. Keys that the record does not have are passed over; a key
of the record may stand once only.
-/

namespace Loyalty.Json

open Loyalty.Text

/-- The fault of a value of another kind than was asked for, which begins with
    these bytes. -/
def wrongKind : List UInt8 → ReadFault
  | [] => .malformed
  | b :: rest =>
    let faultOf {α : Type} : Except ReadFault α → ReadFault
      | .ok _ => .mismatched
      | .error e => e
    if b = byte 'n' then faultOf (word ['u', 'l', 'l'] rest)
    else if b = byte 't' then faultOf (word ['r', 'u', 'e'] rest)
    else if b = byte 'f' then faultOf (word ['a', 'l', 's', 'e'] rest)
    else if b = byte '-' then faultOf (number true rest)
    else if isDigit b then faultOf (number false (b :: rest))
    else if b = byte '"' then faultOf (stringText rest)
    else if b = byte '[' || b = byte '{' then .mismatched
    else .malformed

/-- Reads a text. -/
def readText : Reader String := fun bs =>
  match skipBlanks bs with
  | [] => .error .truncated
  | b :: rest => if b = byte '"' then stringText rest else .error (wrongKind (b :: rest))

/-- Reads an integer of 64 bits with a sign. -/
def readInteger : Reader Int := fun bs =>
  match skipBlanks bs with
  | [] => .error .truncated
  | b :: rest => do
    let (n, rest) ←
      if b = byte '-' then number true rest
      else if isDigit b then number false (b :: rest)
      else .error (wrongKind (b :: rest))
    match n with
    | .whole n =>
      if int64Min ≤ n ∧ n ≤ int64Max then .ok (n, rest) else .error .mismatched
    | .real _ => .error .mismatched

/-- Reads the word `null`. -/
def readNull : Reader Unit := fun bs =>
  match skipBlanks bs with
  | [] => .error .truncated
  | b :: rest =>
    if b = byte 'n' then return ((), ← word ['u', 'l', 'l'] rest)
    else .error (wrongKind (b :: rest))

/-- Reads a value that may be null. -/
def readOption {α : Type} (read : Reader α) : Reader (Option α) := fun bs =>
  match skipBlanks bs with
  | [] => .error .truncated
  | b :: rest =>
    if b = byte 'n' then return (none, ← word ['u', 'l', 'l'] rest)
    else do
      let (a, rest) ← read (b :: rest)
      return (some a, rest)

/-- Reads one of some names: as a text, or as an object with the name as its
    only key and null behind it. -/
def readName {α : Type} (ofName? : String → Option α) : Reader α := fun bs => do
  let named (bs : List UInt8) : Except ReadFault (α × List UInt8) := do
    let (name, rest) ← readText bs
    match ofName? name with
    | some a => .ok (a, rest)
    | none => .error .mismatched
  match skipBlanks bs with
  | [] => .error .truncated
  | b :: rest =>
    if b = byte '"' then named (b :: rest)
    else if b = byte '{' then
      match skipBlanks rest with
      | [] => .error .truncated
      | k :: rest =>
        if k ≠ byte '"' then .error .malformed
        else do
          let (a, rest) ← named (k :: rest)
          match skipBlanks rest with
          | [] => .error .truncated
          | c :: rest =>
            if c ≠ byte ':' then .error .malformed
            else do
              let (_, rest) ← readNull rest
              match skipBlanks rest with
              | [] => .error .truncated
              | d :: rest => if d = byte '}' then .ok (a, rest) else .error .malformed
    else .error .malformed

/-! ## Records -/

/-- A member of a record whose draft is a `σ`. -/
structure Member (σ : Type) where
  name : String
  /-- whether the draft has the member already -/
  isSet : σ → Bool
  /-- reads the member and puts it into a draft -/
  read : Reader (σ → σ)
  /-- what is put into the draft of an object without the member, if the member
      may be left out -/
  leftOut : Option (σ → σ)
  /-- whether it may also be left out at the end of a list -/
  leftOutInLists : Bool

variable {σ : Type}

/-- Reads the values of a list for these members, from behind the bracket or
    the value before; the bracket is left. -/
def readElements (members : List (Member σ)) (first : Bool) (draft : σ) : Reader σ := fun bs =>
  match members with
  | [] => .ok (draft, bs)
  | m :: more =>
    let ended : Except ReadFault (σ × List UInt8) :=
      match m.leftOut, m.leftOutInLists with
      | some f, true => readElements more first (f draft) bs
      | _, _ => .error .mismatched
    let element (bs : List UInt8) : Except ReadFault (σ × List UInt8) := do
      let (f, rest) ← m.read bs
      readElements more false (f draft) rest
    match skipBlanks bs with
    | [] => .error .truncated
    | b :: rest =>
      if b = byte ']' then ended
      else if first then element (b :: rest)
      else if b = byte ',' then
        match skipBlanks rest with
        | [] => .error .truncated
        | c :: rest => if c = byte ']' then .error .malformed else element (c :: rest)
      else .error .malformed

/-- Puts into a draft what members that are missing stand for. -/
def fillIn (members : List (Member σ)) (draft : σ) : Except ReadFault σ :=
  match members with
  | [] => .ok draft
  | m :: more =>
    if m.isSet draft then fillIn more draft
    else
      match m.leftOut with
      | some f => fillIn more (f draft)
      | none => .error .mismatched

/-- Reads the keys and values of an object up to its closing brace. -/
def readEntries (members : List (Member σ)) : Nat → Bool → σ → Reader σ
  | 0, _, _, _ => .error .truncated
  | fuel + 1, first, draft, bs =>
    let entry (bs : List UInt8) : Except ReadFault (σ × List UInt8) := do
      let (key, rest) ← readText bs
      let member := members.find? (·.name = key)
      if member.any (·.isSet draft) then .error .mismatched
      else
        match skipBlanks rest with
        | [] => .error .truncated
        | c :: rest =>
          if c ≠ byte ':' then .error .malformed
          else
            match member with
            | some m => do
              let (f, rest) ← m.read rest
              readEntries members fuel false (f draft) rest
            | none => do readEntries members fuel false draft (← skipValue rest)
    match skipBlanks bs with
    | [] => .error .truncated
    | b :: rest =>
      if b = byte '}' then return (← fillIn members draft, rest)
      else if first then if b = byte '"' then entry (b :: rest) else .error .malformed
      else if b = byte ',' then
        match skipBlanks rest with
        | [] => .error .truncated
        | c :: rest => if c = byte '"' then entry (c :: rest) else .error .malformed
      else .error .malformed

/-- Reads a record, from an empty draft. -/
def readRecord (members : List (Member σ)) (empty : σ) : Reader σ := fun bs =>
  match skipBlanks bs with
  | [] => .error .truncated
  | b :: rest =>
    if b = byte '[' then do
      let (draft, rest) ← readElements members true empty rest
      match skipBlanks rest with
      | [] => .error .truncated
      | c :: rest => if c = byte ']' then .ok (draft, rest) else .error .malformed
    else if b = byte '{' then readEntries members (rest.length + 1) true empty rest
    else .error (wrongKind (b :: rest))

/-- Reads a text that holds one value and nothing else. -/
def readWhole {α : Type} (read : Reader α) (bs : List UInt8) : Except ReadFault α := do
  let (a, rest) ← read bs
  if (skipBlanks rest).isEmpty then .ok a else .error .malformed

end Loyalty.Json
