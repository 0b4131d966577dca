import MarketData.Distinct

/-! Request targets. A `Url` is the text a request is made with; two of them are the same target
when the texts are the same. -/

namespace MarketData

/-- Why no URL or parameter can be made of some parts. -/
inductive UrlFault
  | emptyUrl
  | emptyParamKey
  | emptyParamValue
  | emptyParamListValue
deriving DecidableEq, Repr

def UrlFault.message : UrlFault → String
  | .emptyUrl => "Empty Url"
  | .emptyParamKey => "Empty Param key"
  | .emptyParamValue => "Empty Param value"
  | .emptyParamListValue => "Empty Param list value"

structure Url where
  text : String
deriving DecidableEq, Repr

namespace Url

/-- URLs are ordered by their text. -/
instance : Ord Url := ⟨compareOn Url.text⟩

instance : Std.TransOrd Url := inferInstanceAs (Std.TransCmp (compareOn Url.text))

instance : Std.LawfulEqOrd Url where
  eq_of_compare {a b} h := by
    obtain ⟨a⟩ := a
    obtain ⟨b⟩ := b
    have heq : compare a b = .eq := h
    simpa using heq

def ofString (base : String) : Except UrlFault Url :=
  if base.isEmpty then .error .emptyUrl else .ok ⟨base⟩

end Url

abbrev UrlSet := Distinct Url

end MarketData
