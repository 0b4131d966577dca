import MarketData.Address.Read
import MarketData.Json.Read
import MarketData.Json.Writer
import MarketData.Transport.Config
import MarketData.Transport.Fault
import MarketData.Url.Basic

/-! The other end of the wire. A `Network` answers one request for a URL, given the requests made so
far, with the targets that were asked and what came back. `ofServer` is HTTP over a scripted server,
`ofScript` gives each attempt at a URL its own outcome, and in `unreachable` no host can be
connected to. -/

namespace MarketData

/-- How a transfer ended: the body was read to its end after a success status, or it failed. -/
inductive Ending
  | done
  | failed (fault : TransportFault)
deriving DecidableEq, Repr

/-- What one attempt at a URL brought; the pieces of the body are in the order of arrival, and some
may come before a failure. -/
structure Transfer where
  chunks : List Bytes
  ending : Ending
deriving DecidableEq, Repr

namespace Transfer

def body (t : Transfer) : Bytes := t.chunks.flatten

def failed (fault : TransportFault) : Transfer := ⟨[], .failed fault⟩

end Transfer

/-- An attempt together with the targets requested for it, in order. -/
structure Exchange where
  targets : List String
  transfer : Transfer
deriving DecidableEq, Repr

structure Network where
  answer : TransportConfig → (log : List String) → Url → Exchange

/-- A scripted answer of a server. -/
structure Reply where
  status : Nat := 200
  reason : String := "X"
  headers : List (String × String) := []
  body : Bytes := []
  /-- The body describes the request. -/
  echo : Bool := false
  /-- The connection is closed without an answer. -/
  dropped : Bool := false
  /-- Announced bytes of the body that never arrive. -/
  missing : Nat := 0
  delay : Milliseconds := 0
deriving DecidableEq, Repr

/-- Replies by target: the n-th request gets the n-th reply, and the last one repeats. -/
structure Server where
  replies : List (String × List Reply)

namespace Server

def notFound : Reply := { status := 404, body := Bytes.ofString "not found" }

def reply (server : Server) (target : String) (n : Nat) : Reply :=
  match server.replies.lookup target with
  | none => notFound
  | some replies => (replies[n]? <|> replies.getLast?).getD notFound

end Server

namespace Reply

def header? (reply : Reply) (name : String) : Option String :=
  (reply.headers.find? fun (key, _) => key.map Char.toLower == name).map (·.2)

def isRedirect (reply : Reply) : Bool := [301, 302, 303, 307, 308].contains reply.status

/-- Where a redirect leads. -/
def location? (reply : Reply) (source : Address) : Option Address :=
  if reply.isRedirect then
    (reply.header? "location").bind fun text =>
      match source.resolve text with
      | .ok next => some next
      | .error _ => none
  else none

/-- The description of a request that an echoing server sends back. -/
def echoOf (config : TransportConfig) (target : String) (referer : Option String) : Bytes :=
  let optional (value : Option String) : Json.Value := value.elim .null .text
  let request := Json.Value.ofMembers [
    ("method", .text "GET"), ("target", .text target), ("user_agent", .text config.userAgent),
    ("accept", .text "*/*"),
    ("accept_encoding", optional (if config.gzip then some "gzip" else none)),
    ("referer", optional referer)]
  Bytes.ofString request.compact

/-- The answer as it is reported where no redirect is followed. -/
def transfer (reply : Reply) (config : TransportConfig) (target : String)
    (referer : Option String) : Transfer :=
  if 400 ≤ reply.status ∧ reply.status < 600 then
    .failed (.errorStatus (UInt16.ofNat reply.status) reply.reason target)
  else
    let body :=
      if reply.status = 204 ∨ reply.status = 304 then []
      else if reply.echo then echoOf config target referer
      else reply.body
    ⟨[body], if reply.missing = 0 then .done else .failed .brokenBody⟩

end Reply

namespace Network

def isHttp (a : Address) : Bool := a.scheme == "http" || a.scheme == "https"

/-- Follows redirects for as long as `redirects` allows and no target comes up again. `visited`
holds the targets of this transfer so far, the last one first. -/
def follow (server : Server) (config : TransportConfig) (log : List String) :
    (redirects : Nat) → (visited : List String) → (waited : Milliseconds) → Address → Exchange
  | redirects, visited, waited, a =>
    let failed (shown : String) (sent : List String) (cause : SendFault) : Exchange :=
      ⟨sent, .failed (.notSent shown cause)⟩
    let shown := if visited.isEmpty then a.text else a.target
    if a.scheme != "http" then failed shown visited.reverse (.unreachable true)
    else
      let target := a.target
      let sent := (target :: visited).reverse
      let reply := server.reply target (log.count target + visited.count target)
      let waited := waited + reply.delay
      if reply.dropped then failed shown sent .closed
      else if config.requestTimeout < waited then failed shown sent .timedOut
      else if reply.status < 100 then failed shown sent .malformedStatus
      else
        match reply.location? a, redirects with
        | none, _ => ⟨sent, reply.transfer config target visited.head?⟩
        | some _, 0 =>
          if config.maxRedirects = 0 then ⟨sent, reply.transfer config target visited.head?⟩
          else ⟨sent, .failed (.redirectLimit target)⟩
        | some next, redirects + 1 =>
          if (target :: visited).contains next.target then ⟨sent, .failed (.redirectLimit target)⟩
          else follow server config log redirects (target :: visited) waited next

/-- Longer targets cannot be asked for. -/
def longestTarget : Nat := 65534

/-- Characters that a host may have, but not where it is asked for. -/
def isUnaskable (c : Char) : Bool := ['"', '\x60', '{', '}'].contains c

/-- The host and the length of an address are such that a request can name it. -/
def isRequestable (a : Address) : Bool :=
  a.text.utf8ByteSize ≤ longestTarget && !a.host.any fun host => host.any isUnaskable

/-- A network that `send` carries requests over; what is no HTTP address is never sent. User and
password go into a header of their own. -/
def overHttp (send : TransportConfig → List String → Address → Exchange) : Network where
  answer config log url :=
    match Address.read url.text with
    | .error cause => ⟨[], .failed (.malformedUrl cause)⟩
    | .ok a =>
      let a := a.withoutReadableCredentials
      if !isHttp a then ⟨[], .failed (.unsupportedScheme a.text)⟩
      else if !isRequestable a then ⟨[], .failed (.invalidTarget a.text)⟩
      else send config log a

/-- Every host there is to ask is `server`; secure connections cannot be made. -/
def ofServer (server : Server) : Network :=
  overHttp fun config log a => follow server config log config.maxRedirects [] 0 a

/-- No host can be reached. -/
def unreachable : Network :=
  overHttp fun _ _ a => ⟨[], .failed (.notSent a.text (.unreachable (a.scheme == "https")))⟩

/-- The n-th attempt at a URL ends as the script says, and counts as one request. -/
def ofScript (script : Url → Nat → Transfer) : Network where
  answer _ log url := ⟨[url.text], script url (log.count url.text)⟩

end Network

end MarketData
