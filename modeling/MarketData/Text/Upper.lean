import MarketData.Text.CodePoints
import MarketData.Text.UpperTable

/-! Full upper-casing of text, in which one character may become several. -/

namespace MarketData.Upper

def ofChar (c : Char) : List Char :=
  match expansions.lookup c.toNat with
  | some codes => codes.map Char.ofNat
  | none =>
    match CodePoints.image? c.toNat runs with
    | some code => [Char.ofNat code]
    | none => [c]

def ofString (s : String) : String := String.ofList (s.toList.flatMap ofChar)

end MarketData.Upper
