import MarketData.Policy
import MarketData.Text.Quoted

/-! Settings of the HTTP transport, and their installation. Whether a client can be built from them
is not decided here: a `ClientBuilder` tells. -/

namespace MarketData

/-- A length of time in diagnostic output. -/
def Milliseconds.text (t : Milliseconds) : String :=
  if t = 0 then "0ns"
  else if t < 1000 then toString t ++ "ms"
  else
    let thousandths := (Nat.toDigits 10 (1000 + t % 1000)).drop 1
    let kept := (thousandths.reverse.dropWhile (· == '0')).reverse
    toString (t / 1000) ++ (if kept.isEmpty then "" else "." ++ String.ofList kept) ++ "s"

structure TransportConfig where
  connectTimeout : Milliseconds := 10000
  /-- The longest a whole transfer may take. -/
  requestTimeout : Milliseconds := 60000
  /-- How long an idle connection is kept. -/
  idleTimeout : Milliseconds := 90000
  /-- Redirects are answers like any other if this is zero. -/
  maxRedirects : Nat := 10
  gzip : Bool := true
  userAgent : String := "iexcloud/0.2.0"
deriving DecidableEq, Repr

namespace TransportConfig

def text (config : TransportConfig) : String :=
  "TransportConfig \x7b connect_timeout: " ++ Milliseconds.text config.connectTimeout ++
    ", request_timeout: " ++ Milliseconds.text config.requestTimeout ++
    ", pool_idle_timeout: " ++ Milliseconds.text config.idleTimeout ++
    ", max_redirects: " ++ toString config.maxRedirects ++
    ", gzip: " ++ toString config.gzip ++
    ", user_agent: " ++ Quoted.encode config.userAgent ++ " \x7d"

end TransportConfig

/-- Builds a client, or tells why there can be none. -/
abbrev ClientBuilder := TransportConfig → Except String Unit

/-- The one-time installation of a transport. The first attempt decides; later ones are told its
outcome. -/
inductive Setup
  | pending
  | installed (config : TransportConfig)
  | failed (reason : String)
deriving DecidableEq, Repr

namespace Setup

/-- Why the installation failed, where no client could be built. -/
def notBuilt (reason : String) : String := "failed to build HTTP client: " ++ reason

/-- What a first attempt comes to. -/
def outcome (build : ClientBuilder) (config : TransportConfig) : Setup :=
  match build config with
  | .ok () => .installed config
  | .error reason => .failed (notBuilt reason)

/-- What is installed after an attempt with `config`. -/
def install (build : ClientBuilder) (config : TransportConfig) : Setup → Setup
  | .pending => outcome build config
  | done => done

/-- The installed configuration, or why there is none. -/
def config : Setup → Except String TransportConfig
  | .installed config => .ok config
  | .failed reason => .error reason
  | .pending => .error "transport not installed"

end Setup

end MarketData
