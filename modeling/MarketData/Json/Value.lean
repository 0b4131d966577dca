import MarketData.Binary64.Basic
import MarketData.SortedMap

/-! JSON documents. The members of an object that was read stand in increasing key order, each key
once. -/

namespace MarketData.Json

/-- Whole numbers keep all their digits as long as they fit 64 bits, signed or unsigned. -/
inductive Number
  | integer (value : Int)
  | double (value : Binary64)
deriving DecidableEq, Repr

inductive Value
  | null
  | boolean (value : Bool)
  | number (value : Number)
  | text (value : String)
  | array (items : List Value)
  | object (members : List (String × Value))
deriving Repr

namespace Value

def isNull : Value → Bool
  | .null => true
  | _ => false

/-- The member of an object under `key`; nothing else has members. -/
def member? (key : String) : Value → Option Value
  | .object members => Entries.find? key members
  | _ => none

end Value

end MarketData.Json
