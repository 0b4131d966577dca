import MarketData.Market.Endpoint
import MarketData.Text.Quoted

/-! Why a request to the service brought no data. -/

namespace MarketData

inductive ServiceError
  | setup (reason : String)
  | invalidUrl (reason : String)
  | fetch (reason : String)
  | noData (endpoint : Endpoint)
  | format (reason : String)
deriving DecidableEq, Repr

namespace ServiceError

def message : ServiceError → String
  | .setup reason => "Initialization failed: " ++ reason
  | .invalidUrl reason => "Invalid URL: " ++ reason
  | .fetch reason => "Request failed: " ++ reason
  | .noData endpoint => "No data returned for " ++ endpoint.title
  | .format reason => "Unexpected response format: " ++ reason

/-- The error in diagnostic output. -/
def debug : ServiceError → String
  | .setup reason => "Init(" ++ Quoted.encode reason ++ ")"
  | .invalidUrl reason => "InvalidUrl(" ++ Quoted.encode reason ++ ")"
  | .fetch reason => "Fetch(" ++ Quoted.encode reason ++ ")"
  | .noData endpoint => "NoData \x7b endpoint: " ++ endpoint.debug ++ " \x7d"
  | .format reason => "Format(" ++ Quoted.encode reason ++ ")"

end ServiceError

end MarketData
