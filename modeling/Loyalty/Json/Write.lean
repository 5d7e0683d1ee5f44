import Loyalty.Amount.Double
import Loyalty.Amount.Text
import Loyalty.Ledger.Balance
import Loyalty.Ledger.Record
import Loyalty.Text.Hex

/-!
# The documents that are written

Objects are written without blanks, with their keys in a fixed order. Users
see amounts as numbers, and an accrual only where there is one; the records of
the ledger hold amounts as texts.
-/

namespace Loyalty.Json

open Loyalty.Text

/-- A character inside a string. -/
def escapeChar (c : Char) : List Char :=
  match c with
  | '"' => ['\\', '"']
  | '\\' => ['\\', '\\']
  | '\x08' => ['\\', 'b']
  | '\x0c' => ['\\', 'f']
  | '\n' => ['\\', 'n']
  | '\r' => ['\\', 'r']
  | '\t' => ['\\', 't']
  | _ =>
    if c.toNat < 0x20 then ['\\', 'u', '0', '0', hexDigit (c.toNat / 16), hexDigit (c.toNat % 16)]
    else [c]

/-- A text as a string. -/
def writeText (s : String) : List Char := '"' :: s.toList.flatMap escapeChar ++ ['"']

/-- Pieces with commas between them. -/
def commaSeparated : List (List Char) → List Char
  | [] => []
  | [piece] => piece
  | piece :: rest => piece ++ ',' :: commaSeparated rest

/-- An object of keys with the texts of their values. -/
def writeObject (entries : List (String × List Char)) : List Char :=
  '\x7b' :: commaSeparated (entries.map fun (key, value) => writeText key ++ ':' :: value) ++
    ['\x7d']

/-- A list of the texts of its values. -/
def writeList (values : List (List Char)) : List Char :=
  '[' :: commaSeparated values ++ [']']

/-- A point in time as a string. -/
def writeTimestamp (t : Timestamp) : List Char := '"' :: t.chars ++ ['"']

/-! ## What users see -/

/-- An order as its user sees it. -/
def orderView (o : Order) : List Char :=
  writeObject <|
    [("number", writeText o.number), ("status", writeText o.status.text)] ++
      (o.accrual.map fun a => ("accrual", a.doubleChars)).toList ++
        [("uploaded_at", writeTimestamp o.createdAt)]

/-- A withdrawal as its user sees it. -/
def withdrawalView (w : Withdrawal) : List Char :=
  writeObject
    [("order", writeText w.number), ("sum", w.amount.doubleChars),
     ("processed_at", writeTimestamp w.createdAt)]

/-- A balance as its user sees it. -/
def balanceView (b : Balance) : List Char :=
  writeObject [("current", b.current.doubleChars), ("withdrawn", b.withdrawn.doubleChars)]

/-- What the service says about itself. -/
def healthView (status : String) (uptime : Int) : List Char :=
  writeObject [("status", writeText status), ("uptime_seconds", integerChars uptime)]

/-! ## Records -/

/-- An amount as a string with all its places. -/
def writeAmount (a : Amount) : List Char := '"' :: a.chars ++ ['"']

/-- An order with everything that is kept of it. -/
def orderRecord (o : Order) : List Char :=
  writeObject
    [("id", integerChars o.id), ("user_id", integerChars o.user), ("number", writeText o.number),
     ("status", writeText o.status.text),
     ("accrual", match o.accrual with
       | some a => writeAmount a
       | none => "null".toList),
     ("created_at", writeTimestamp o.createdAt)]

/-- A withdrawal with everything that is kept of it. -/
def withdrawalRecord (w : Withdrawal) : List Char :=
  writeObject
    [("id", integerChars w.id), ("user_id", integerChars w.user),
     ("order_number", writeText w.number), ("amount", writeAmount w.amount),
     ("created_at", writeTimestamp w.createdAt)]

end Loyalty.Json
