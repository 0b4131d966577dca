import MarketData.Binary64.Text
import MarketData.Market.Endpoint

/-! The options of one request: query parameters in the order they were added, the version of the
interface, and whose data is asked for. -/

namespace MarketData

inductive OptionValue
  | text (value : String)
  | boolean (value : Bool)
  | integer (value : Int)
  | float (value : Binary64)
deriving DecidableEq, Repr

namespace OptionValue

/-- A number with all its digits and no exponent. -/
def floatText : Binary64 → String
  | .nan => "NaN"
  | .infinite negative => if negative then "-inf" else "inf"
  | .finite negative m e =>
    let magnitude := if m = 0 then "0" else (Binary64.shortest .up m e).positional false
    if negative then "-" ++ magnitude else magnitude

def render : OptionValue → String
  | .text s => s
  | .boolean b => toString b
  | .integer n => toString n
  | .float x => floatText x

end OptionValue

structure RequestOptions where
  options : List (String × String) := []
  version : Version := .stable
  dataType : DataType := .authentic
deriving DecidableEq, Repr

namespace RequestOptions

def sandbox : RequestOptions := { dataType := .sandbox }

def withOption (key : String) (value : OptionValue) (o : RequestOptions) : RequestOptions :=
  { o with options := o.options ++ [(key, value.render)] }

end RequestOptions

end MarketData
