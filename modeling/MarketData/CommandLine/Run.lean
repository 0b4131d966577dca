import MarketData.CommandLine.Help
import MarketData.Market.Client

/-! Carrying out a command line. Data goes to standard output as one JSON document; an error goes to
standard error with the chain of its causes, and nothing is written to standard output then. -/

namespace MarketData.CommandLine

/-- An error with its causes, from the outer one to the inner one. -/
structure Report where
  message : String
  causes : List String := []
deriving DecidableEq, Repr

namespace Report

/-- Continues the lines of a cause under its first one. -/
def indentLines (lead : String) (cause : String) : String :=
  String.ofList (cause.toList.flatMap fun c => if c == '\n' then c :: lead.toList else [c])

def causeLines : List String → String
  | [cause] => "\n    " ++ indentLines "    " cause
  | causes => String.join (causes.zipIdx.map fun (cause, n) =>
      "\n" ++ Help.spaces (5 - (toString n).length) ++ toString n ++ ": " ++
        indentLines "       " cause)

def text (r : Report) : String :=
  "Error: " ++ r.message ++
    (if r.causes.isEmpty then "" else "\n\nCaused by:" ++ causeLines r.causes) ++ "\n"

end Report

/-- What a run of the program leaves behind. -/
structure Output where
  code : Nat
  stdout : String := ""
  stderr : String := ""
deriving DecidableEq, Repr

namespace Output

def success (text : String) : Output := { code := 0, stdout := text }

def help (vars : List (String × String)) (long : Bool) (topic : HelpTopic) : Output :=
  success (Terminal.toFile vars (Help.text long topic))

def failure (r : Report) : Output := { code := 1, stderr := r.text }

def misuse (vars : List (String × String)) (e : UsageError) : Output :=
  { code := 2, stderr := Terminal.toFile vars e.report }

end Output

namespace Globals

def options (g : Globals) : RequestOptions := if g.sandbox then .sandbox else {}

def outputFormat (g : Globals) : Json.Format := g.format.getD .pretty

/-- The secret keys, unless the one that is needed is missing. -/
def keys (g : Globals) : Except Report Keys :=
  let (token, source) :=
    if g.sandbox then (g.sandboxToken, "--sandbox-token or IEX_SANDBOX_SECRET_KEY")
    else (g.token, "--token or IEX_SECRET_KEY")
  if (token.getD "").isEmpty then .error { message := "Missing API token: pass " ++ source }
  else .ok { secretKey := g.token.getD "", secretSandboxKey := g.sandboxToken.getD "" }

def client (env : Environment) (g : Globals) (s : Session) :
    Except Report (Client × Session) := do
  let keys ← g.keys
  let config := g.baseUrl.elim {} ServiceConfig.ofBaseUrl
  match Client.create env keys config s with
  | (.ok client, s) => .ok (client, s)
  | (.error e, _) => .error ⟨"Failed to create IEX Cloud client", [e.message]⟩

end Globals

/-- The document of a basic endpoint. -/
def basicDocument (env : Environment) (g : Globals) (endpoint : Endpoint) (s : Session) :
    Except Report Json.Value × Session :=
  match g.client env s with
  | .error r => (.error r, s)
  | .ok (client, s) =>
    let (call, s) := client.get env .free endpoint g.options s
    match call.result with
    | .ok document => (.ok document, s)
    | .error e => (.error ⟨"Failed to fetch " ++ endpoint.title, [e.message]⟩, s)

/-- One object with the data of a stock endpoint by symbol. -/
def stockDocument (env : Environment) (g : Globals) (endpoint : Endpoint) (symbols : List String)
    (s : Session) : Except Report Json.Value × Session :=
  match g.client env s with
  | .error r => (.error r, s)
  | .ok (client, s) =>
    let requested : SymbolSet := Distinct.ofList (symbols.map Symbol.ofString)
    let (call, s) := client.getStock env .free [endpoint] requested g.options s
    match call.result with
    | .ok data => (.ok (.object (data.pick endpoint)), s)
    | .error e => (.error ⟨"Failed to fetch " ++ endpoint.title, [e.message]⟩, s)

namespace GetRequest

def policy (r : GetRequest) : Policy :=
  ({ maxRetries := r.retries, retryEmpty := r.retryEmpty, pause := r.backoff } : Policy).addStatuses
    r.retryOn

def url (r : GetRequest) : Except Report Url := do
  let params ←
    match Params.ofPairs r.params with
    | .ok params => .ok params
    | .error fault => .error ⟨"Invalid query parameter", [fault.message]⟩
  match Url.withParams r.base params with
  | .ok url => .ok url
  | .error fault => .error ⟨"Invalid URL", [fault.message]⟩

/-- The document behind a URL. -/
def document (env : Environment) (r : GetRequest) (s : Session) :
    Except Report Json.Value × Session :=
  match r.url with
  | .error report => (.error report, s)
  | .ok url =>
    let (run, engine) :=
      s.engine.fetch env .free (Distinct.singleton url) r.maxConnections r.policy
    let result :=
      match (run.results.remove url).1 with
      | none => .error { message := "No result for " ++ url.text }
      | some (.ok document) => .ok document
      | some (.error e) => .error ⟨"Failed to fetch " ++ url.text, e.message :: e.causes⟩
    (result, { s with engine })

end GetRequest

def Command.document (env : Environment) (g : Globals) (s : Session) :
    Command → Except Report Json.Value × Session
  | .status => basicDocument env g .systemStatus s
  | .symbols => basicDocument env g .symbols s
  | .quote tickers => stockDocument env g .quote tickers s
  | .company tickers => stockDocument env g .company tickers s
  | .get request => request.document env s

/-- Runs the program with the given environment variables and words. -/
def run (env : Environment) (vars : List (String × String)) (words : List String)
    (s : Session) : Output × Session :=
  match Invocation.read vars words with
  | .error (.usage e) => (.misuse vars e, s)
  | .error (.help topic long) => (.help vars long topic, s)
  | .error .version => (.success Help.versionText, s)
  | .ok ⟨_, none⟩ => (.help vars false .program, s)
  | .ok ⟨g, some command⟩ =>
    match command.document env g s with
    | (.ok document, s) => (.success (document.document g.outputFormat), s)
    | (.error r, s) => (.failure r, s)

end MarketData.CommandLine
