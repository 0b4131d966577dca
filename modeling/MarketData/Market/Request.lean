import MarketData.Market.Config
import MarketData.Market.Options
import MarketData.Market.Symbol
import MarketData.Url.Params

/-! The URLs of requests to the service. The token, and for stock requests the symbols and types,
are put in before the options, so that no option of the same name takes their place. -/

namespace MarketData.Request

/-- The base URL for the data that is asked for, with the version. -/
def root (config : ServiceConfig) (o : RequestOptions) : String :=
  config.baseUrl o.dataType ++ o.version.path

def endpointUrl (config : ServiceConfig) (keys : Keys) (endpoint : Endpoint) (o : RequestOptions) :
    Except UrlFault Url := do
  let token ← Param.single "token" (keys.token o.dataType)
  let params ← (Params.empty.insert token).addPairs o.options
  Url.withParams (root config o ++ "/" ++ endpoint.path) params

/-- The distinct elements in increasing order. -/
def sortedDistinct {α : Type} [Ord α] [Std.TransOrd α] (xs : List α) : List α :=
  (SortedMap.ofList (xs.map (·, ()))).keys

/-- Several stock endpoints for several symbols. Symbols and types are sorted and named once. -/
def stockUrl (config : ServiceConfig) (keys : Keys) (endpoints : List Endpoint)
    (symbols : List Symbol) (o : RequestOptions) : Except UrlFault Url := do
  let symbolList ← Param.list "symbols" (sortedDistinct (symbols.map (·.text)))
  let types ← Param.list "types" (sortedDistinct (endpoints.map (·.path)))
  let token ← Param.single "token" (keys.token o.dataType)
  let params ← (((Params.empty.insert symbolList).insert types).insert token).addPairs o.options
  Url.withParams (root config o ++ "/stock/market/batch") params

/-- Consecutive pieces of `size` elements; only the last may be shorter. -/
def chunks {α : Type} (size : Nat) (xs : List α) : List (List α) :=
  (List.range ((xs.length + size - 1) / size)).map fun i => (xs.drop (size * i)).take size

/-- The URLs that together ask for all symbols. -/
def stockUrls (config : ServiceConfig) (keys : Keys) (endpoints : List Endpoint)
    (symbols : SymbolSet) (o : RequestOptions) : Except UrlFault (List Url) :=
  (chunks maxSymbolsPerRequest (sortedDistinct symbols.items)).mapM fun chunk =>
    stockUrl config keys endpoints chunk o

end MarketData.Request
