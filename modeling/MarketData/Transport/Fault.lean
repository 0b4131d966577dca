import MarketData.Address.Basic
import MarketData.Policy

/-! Why a transfer failed: the message that is reported, the chain of causes below it, and the error
status if the server answered with one. -/

namespace MarketData

/-- Why a request got no usable answer. -/
inductive SendFault
  | unreachable (tunnelled : Bool)
  | closed
  | timedOut
  | malformedStatus
deriving DecidableEq, Repr

/-- From the outer cause to the inner one. -/
def SendFault.causes : SendFault → List String
  | .unreachable tunnelled =>
    "client error (Connect)" ::
      (if tunnelled then ["tunnel error: failed to create underlying connection"] else []) ++
      ["tcp connect error", "Network is unreachable (os error 101)"]
  | .closed => ["client error (SendRequest)", "connection closed before message completed"]
  | .timedOut => ["operation timed out"]
  | .malformedStatus => ["client error (SendRequest)", "invalid HTTP status-code parsed"]

inductive TransportFault
  | noClient
  | malformedUrl (cause : AddressFault)
  | unsupportedScheme (address : String)
  | invalidTarget (address : String)
  | notSent (address : String) (cause : SendFault)
  | redirectLimit (address : String)
  | errorStatus (status : Status) (reason address : String)
  | brokenBody
deriving DecidableEq, Repr

namespace TransportFault

def message : TransportFault → String
  | .noClient | .malformedUrl _ => "builder error"
  | .unsupportedScheme address | .invalidTarget address =>
    "builder error for url (" ++ address ++ ")"
  | .notSent address _ => "error sending request for url (" ++ address ++ ")"
  | .redirectLimit address => "error following redirect for url (" ++ address ++ ")"
  | .errorStatus status reason address =>
    let side := if status < 500 then "client" else "server"
    "HTTP status " ++ side ++ " error (" ++ toString status.toNat ++ " " ++ reason ++
      ") for url (" ++ address ++ ")"
  | .brokenBody => "error decoding response body"

def causes : TransportFault → List String
  | .malformedUrl cause => [cause.message]
  | .unsupportedScheme _ => ["URL scheme is not allowed"]
  | .invalidTarget _ => ["Parsed Url is not a valid Uri"]
  | .notSent _ cause => cause.causes
  | .redirectLimit _ => ["too many redirects"]
  | .brokenBody =>
    ["error reading a body from connection", "end of file before message length reached"]
  | .noClient | .errorStatus .. => []

def status? : TransportFault → Option Status
  | .errorStatus status _ _ => some status
  | _ => none

end TransportFault

end MarketData
