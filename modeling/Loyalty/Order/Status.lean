/-!
# Where an order stands

An order is new until the authority is asked about it, is processing while the
answer is awaited, and ends as processed, with points credited for it, or as
invalid.
-/

namespace Loyalty

/-- The status of an order. -/
inductive OrderStatus
  /-- waiting to be taken up -/
  | new
  /-- taken up: the authority is being asked -/
  | processing
  /-- the points are credited -/
  | processed
  /-- refused by the authority -/
  | invalid
  deriving DecidableEq, Repr, Inhabited

namespace OrderStatus

/-- The four statuses. -/
def all : List OrderStatus := [new, processing, processed, invalid]

/-- The name of a status. -/
def text : OrderStatus → String
  | new => "NEW"
  | processing => "PROCESSING"
  | processed => "PROCESSED"
  | invalid => "INVALID"

/-- The status of that name. -/
def ofText? (name : String) : Option OrderStatus := all.find? (·.text == name)

/-- Whether no further status follows. -/
def isFinal : OrderStatus → Bool
  | processed | invalid => true
  | new | processing => false

end OrderStatus
end Loyalty
