import MarketData.Gate
import MarketData.Market.Request
import MarketData.Market.Sections

/-! Asking the service for data. All requests of a process pass one gate; a `Session` is that gate
with the engine behind it and the clock. -/

namespace MarketData

structure Session where
  engine : Engine := {}
  gate : Gate := ⟨Policy.service, none⟩
  now : Instant := 0

/-- The result of a call, with the batch that was run for it if there was one. -/
structure Call (α : Type) where
  result : Except ServiceError α
  run : Option BatchRun := none

structure Client where
  keys : Keys
  config : ServiceConfig
deriving DecidableEq

namespace Client

/-- Sets the transport up unless that was done before. -/
def create (env : Environment) (keys : Keys) (config : ServiceConfig) (s : Session) :
    Except ServiceError Client × Session :=
  let (outcome, engine) := s.engine.install env {}
  let client :=
    match outcome with
    | .ok () => .ok ⟨keys, config⟩
    | .error e => .error (.setup e.message)
  (client, { s with engine })

def debug (c : Client) : String :=
  "IexClient \x7b keys: " ++ c.keys.debug ++ ", config: " ++ c.config.debug ++ " \x7d"

/-- Fetches URLs through the gate; any failure fails the call. -/
def perform (env : Environment) (footing : Footing) (c : Client) (urls : List Url) (s : Session) :
    Call (SortedMap Url Json.Value) × Session :=
  let ((run, engine), now, gate) :=
    s.gate.fetch env footing (env.urlSet urls) c.config.maxConnections s.engine s.now
  let result :=
    match run.results.toExcept (env.order .results) with
    | .ok documents => .ok documents
    | .error e => .error (.fetch e.message)
  (⟨result, some run⟩, ⟨engine, gate, now⟩)

/-- Fetches a basic endpoint. -/
def get (env : Environment) (footing : Footing) (c : Client) (endpoint : Endpoint)
    (o : RequestOptions) (s : Session) : Call Json.Value × Session :=
  if endpoint.isStock then
    (⟨.error (.invalidUrl (endpoint.title ++ " is queried per symbol; use get_stock")), none⟩, s)
  else
    match Request.endpointUrl c.config c.keys endpoint o with
    | .error fault => (⟨.error (.invalidUrl fault.message), none⟩, s)
    | .ok url =>
      let (call, s) := c.perform env footing [url] s
      let result := do
        match env.handOut (← call.result) with
        | [] | .null :: _ => .error (.noData endpoint)
        | document :: _ => .ok document
      (⟨result, call.run⟩, s)

/-- What is wrong with a stock request before any URL is made. -/
def stockObjection? (endpoints : List Endpoint) (symbols : SymbolSet) : Option String :=
  match endpoints.find? (!·.isStock) with
  | some basic => some (basic.title ++ " is not a stock endpoint")
  | none => if symbols.isEmpty then some "no symbols requested" else none

/-- Fetches stock endpoints for a set of symbols, in as many requests as it takes. What the service
does not return is left out. -/
def getStock (env : Environment) (footing : Footing) (c : Client) (endpoints : List Endpoint)
    (symbols : SymbolSet) (o : RequestOptions) (s : Session) : Call StockData × Session :=
  match stockObjection? endpoints symbols with
  | some reason => (⟨.error (.invalidUrl reason), none⟩, s)
  | none =>
    match Request.stockUrls c.config c.keys endpoints symbols o with
    | .error fault => (⟨.error (.invalidUrl fault.message), none⟩, s)
    | .ok urls =>
      let (call, s) := c.perform env footing urls s
      let result := do
        StockData.ofResponses endpoints symbols (env.handOut (← call.result))
      (⟨result, call.run⟩, s)

end Client

end MarketData
