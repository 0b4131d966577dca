import MarketData.Json.Writer
import MarketData.Market.Error
import MarketData.Market.Symbol

/-! Stock data by symbol and endpoint, gathered from the responses of one request. -/

namespace MarketData

/-- The sections of one symbol. -/
abbrev Sections := SortedMap Endpoint Json.Value

abbrev StockData := SortedMap Symbol Sections

namespace StockData

/-- Adds the asked sections that are there and not null. -/
def addSections (endpoints : List Endpoint) (found : Json.Value) (sections : Sections) : Sections :=
  endpoints.foldl (fun sections endpoint =>
    match (found.member? endpoint.path).filter (!·.isNull) with
    | some value => sections.insert endpoint value
    | none => sections) sections

/-- Adds what an object holds for one symbol. -/
def addSymbol (endpoints : List Endpoint) (response : Json.Value) (data : StockData)
    (symbol : Symbol) : StockData :=
  match response.member? symbol.text with
  | none => data
  | some found => data.insert symbol (addSections endpoints found (data.getD symbol ∅))

/-- Adds a response: an object keyed by symbol, or null where there is nothing. -/
def addResponse (endpoints : List Endpoint) (symbols : SymbolSet) (data : StockData) :
    Json.Value → Except ServiceError StockData
  | .object members =>
    .ok (symbols.items.foldl (addSymbol endpoints (.object members)) data)
  | .null => .ok data
  | other => .error (.format ("expected an object keyed by symbol, got " ++ other.compact))

/-- Adds responses one after the other, up to the first that cannot be. -/
def ofResponses (endpoints : List Endpoint) (symbols : SymbolSet) (responses : List Json.Value) :
    Except ServiceError StockData :=
  responses.foldlM (addResponse endpoints symbols) ∅

/-- The sections of one endpoint by symbol. -/
def pick (endpoint : Endpoint) (data : StockData) : List (String × Json.Value) :=
  data.entries.filterMap fun (symbol, sections) =>
    (sections.get? endpoint).map (symbol.text, ·)

end StockData

end MarketData
