import MarketData.Distinct
import MarketData.Json.Typed
import MarketData.Text.Upper

/-! Ticker symbols. `Symbol.ofString` writes them in upper case; a symbol read from JSON keeps the
text it was given. -/

namespace MarketData

structure Symbol where
  text : String
deriving DecidableEq, Repr

namespace Symbol

instance : Ord Symbol := ⟨compareOn Symbol.text⟩

instance : Std.TransOrd Symbol := inferInstanceAs (Std.TransCmp (compareOn Symbol.text))

instance : Std.LawfulEqOrd Symbol where
  eq_of_compare {a b} h := by
    obtain ⟨a⟩ := a
    obtain ⟨b⟩ := b
    have heq : compare a b = .eq := h
    simpa using heq

def ofString (text : String) : Symbol := ⟨Upper.ofString text⟩

def readJson : Json.Reader Symbol := fun rest => do
  let (s, rest) ← Json.Typed.text rest
  return (⟨s⟩, rest)

def toJson (s : Symbol) : Json.Value := .text s.text

/-- The symbol in diagnostic output. -/
def debug (s : Symbol) : String := "Symbol(" ++ Quoted.encode s.text ++ ")"

end Symbol

abbrev SymbolSet := Distinct Symbol

end MarketData
