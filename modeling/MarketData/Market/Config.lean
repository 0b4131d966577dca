import MarketData.Market.Endpoint
import MarketData.Policy
import MarketData.Text.Quoted

/-! What a client is set up with: its keys, the hosts it asks, and the limits of the service. -/

namespace MarketData

/-- The keys of an account. Only the secret ones sign requests. -/
structure Keys where
  publicKey : String := ""
  secretKey : String := ""
  publicSandboxKey : String := ""
  secretSandboxKey : String := ""
deriving DecidableEq

namespace Keys

/-- The secret key that signs requests for the given data. -/
def token (keys : Keys) : DataType → String
  | .authentic => keys.secretKey
  | .sandbox => keys.secretSandboxKey

/-- Diagnostic output shows no key. -/
def debug (_ : Keys) : String := "Keys \x7b .. \x7d"

end Keys

structure ServiceConfig where
  /-- Where authentic data is, with a slash at the end. -/
  cloudBaseUrl : String := "https://cloud.iexapis.com/"
  /-- Where sandbox data is, with a slash at the end. -/
  sandboxBaseUrl : String := "https://sandbox.iexapis.com/"
  /-- How many batches of symbols are fetched at once; zero stands for no limit. -/
  maxConnections : Nat := 0
deriving DecidableEq, Repr

namespace ServiceConfig

/-- One host for both kinds of data. -/
def ofBaseUrl (baseUrl : String) : ServiceConfig :=
  { cloudBaseUrl := baseUrl, sandboxBaseUrl := baseUrl }

def baseUrl (config : ServiceConfig) : DataType → String
  | .authentic => config.cloudBaseUrl
  | .sandbox => config.sandboxBaseUrl

def debug (config : ServiceConfig) : String :=
  "ApiConfig \x7b cloud_base_url: " ++ Quoted.encode config.cloudBaseUrl ++
    ", sandbox_base_url: " ++ Quoted.encode config.sandboxBaseUrl ++
    ", max_connections: " ++ toString config.maxConnections ++ " \x7d"

end ServiceConfig

/-- The most symbols that the service takes in one request. -/
def maxSymbolsPerRequest : Nat := 100

/-- What the service answers when it is asked too often. -/
def tooManyRequests : Status := 429

/-- The policy that a client starts with: three retries where the service was asked too often or
sent nothing, and a pause that stays below its limit. -/
def Policy.service : Policy :=
  ({ maxRetries := 3, retryEmpty := true, pause := 40 } : Policy).addStatuses [tooManyRequests]

end MarketData
