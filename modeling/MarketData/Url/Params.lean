import MarketData.SortedMap
import MarketData.Text.Percent
import MarketData.Url.Basic

/-! Query parameters. Values are percent-coded when a parameter is made; a list is coded element by
element and joined with bare commas. `Params` keeps the first parameter of each key, in key order,
so the query does not depend on the order of distinct keys. -/

namespace MarketData

structure Param where
  key : String
  value : String
deriving DecidableEq, Repr

namespace Param

/-- A parameter with one value. -/
def single (key value : String) : Except UrlFault Param :=
  if key.isEmpty then .error .emptyParamKey
  else if value.isEmpty then .error .emptyParamValue
  else .ok ⟨key, Percent.encode value⟩

def encodeElement (element : String) : Except UrlFault String :=
  if element.isEmpty then .error .emptyParamListValue else .ok (Percent.encode element)

/-- A parameter with a list of values. -/
def list (key : String) (elements : List String) : Except UrlFault Param :=
  if key.isEmpty then .error .emptyParamKey
  else do
    let encoded ← elements.mapM encodeElement
    if encoded.isEmpty then .error .emptyParamValue
    else .ok ⟨key, ",".intercalate encoded⟩

def text (p : Param) : String := p.key ++ "=" ++ p.value

end Param

/-- Coded values by key. -/
structure Params where
  values : SortedMap String String

namespace Params

def empty : Params := ⟨∅⟩

def contains (params : Params) (key : String) : Bool := params.values.contains key

/-- A key that is there keeps its value. -/
def insert (params : Params) (p : Param) : Params := ⟨params.values.insertNew p.key p.value⟩

/-- Inserts a parameter, and tells whether its key was free. -/
def offer (params : Params) (p : Param) : Bool × Params :=
  (!params.contains p.key, params.insert p)

def entries (params : Params) : List (String × String) := params.values.entries

def size (params : Params) : Nat := params.values.size

def isEmpty (params : Params) : Bool := params.values.isEmpty

/-- Adds single-valued parameters in order, up to the first that cannot be made. -/
def addPairs (params : Params) (pairs : List (String × String)) : Except UrlFault Params :=
  pairs.foldlM (fun params (key, value) => do
    return params.insert (← Param.single key value)) params

def ofPairs (pairs : List (String × String)) : Except UrlFault Params := empty.addPairs pairs

/-- The parameters as `key=value`, joined with `&`. -/
def query (params : Params) : String :=
  "&".intercalate (params.entries.map fun (key, value) => key ++ "=" ++ value)

end Params

/-- The base, with the parameters after a `?` if there are any. -/
def Url.withParams (base : String) (params : Params) : Except UrlFault Url := do
  let url ← Url.ofString base
  return if params.isEmpty then url else ⟨url.text ++ "?" ++ params.query⟩

end MarketData
