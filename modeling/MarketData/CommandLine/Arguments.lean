import MarketData.Json.Writer
import MarketData.Policy
import MarketData.Text.Decimal

/-! The options and commands of the program, as data: how each is spelled, explained and stored. -/

namespace MarketData.CommandLine

/-- Options that every command takes, as far as they were given. -/
structure Globals where
  token : Option String := none
  sandboxToken : Option String := none
  sandbox : Bool := false
  baseUrl : Option String := none
  format : Option Json.Format := none
deriving DecidableEq, Repr

/-- What was given with the command takes the place of what was given before it. -/
def Globals.over (inner outer : Globals) : Globals where
  token := inner.token <|> outer.token
  sandboxToken := inner.sandboxToken <|> outer.sandboxToken
  sandbox := inner.sandbox || outer.sandbox
  baseUrl := inner.baseUrl <|> outer.baseUrl
  format := inner.format <|> outer.format

/-- A URL to fetch and how to fetch it. -/
structure GetRequest where
  base : String := ""
  params : List (String × String) := []
  maxConnections : Nat := 0
  retries : UInt32 := 0
  retryOn : List Status := []
  retryEmpty : Bool := false
  backoff : Milliseconds := 40
deriving DecidableEq, Repr

/-- What the words of one command have brought so far. -/
structure Draft where
  globals : Globals := {}
  positionals : List String := []
  request : GetRequest := {}
deriving DecidableEq, Repr

/-- Why an argument does not take a value. -/
inductive ValueFault
  | absent
  | notAChoice
  | rejected (reason : String)
deriving DecidableEq, Repr

/-- How an option is used on the command line. -/
inductive Action
  /-- Takes a value, and may be given once. -/
  | set (store : String → Draft → Except ValueFault Draft)
  /-- Takes a value each time it is given. -/
  | append (store : String → Draft → Except ValueFault Draft)
  /-- Takes no value, and may be given once. -/
  | flag (store : Draft → Draft)
  /-- Takes no value, and may be given again. -/
  | count
  | help
  | version

structure Argument where
  short : Option Char := none
  long : String
  valueName : String := ""
  action : Action
  about : String
  /-- The variable that stands in where the option is not given. -/
  envName : Option String := none
  default : Option String := none
  choices : List (String × String) := []
  hidden : Bool := false
  /-- The place for display among all that is declared with it, the commands of the program before
  its options. -/
  order : Nat := 999

namespace Argument

def takesValue (a : Argument) : Bool :=
  match a.action with
  | .set _ | .append _ => true
  | _ => false

/-- What is shown after the long name. -/
def suffix (a : Argument) : String :=
  match a.action with
  | .set _ | .append _ => " <" ++ a.valueName ++ ">"
  | .count => "..."
  | _ => ""

/-- The option as it is named in messages. -/
def name (a : Argument) : String := "--" ++ a.long ++ a.suffix

end Argument

/-- Reads a whole number from `lowest` to `highest` that is stored in a range up to `widest`. -/
def readRanged (widest highest : Nat) (text : String) : Except ValueFault Nat :=
  match Decimal.read (-(widest + 1 : Int)) widest text with
  | .error fault => .error (.rejected fault.message)
  | .ok n =>
    if 0 ≤ n ∧ n ≤ highest then .ok n.toNat
    else .error (.rejected (toString n ++ " is not in 0..=" ++ toString highest))

def readNatural (highest : Nat) (text : String) : Except ValueFault Nat :=
  match Decimal.read 0 highest text with
  | .error fault => .error (.rejected fault.message)
  | .ok n => .ok n.toNat

def largest64 : Nat := UInt64.size - 1

def largestSigned64 : Nat := UInt64.size / 2 - 1

/-- A key and a value around the first equals sign. -/
def readParam (text : String) : Except ValueFault (String × String) :=
  let cs := text.toList
  match cs.dropWhile (· != '=') with
  | _ :: value => .ok (String.ofList (cs.takeWhile (· != '=')), String.ofList value)
  | [] => .error (.rejected ("expected key=value, got `" ++ text ++ "`"))

def formatChoices : List (String × Json.Format × String) :=
  [("pretty", .pretty, "Indented, one field per line"), ("compact", .compact, "A single line")]

def readFormat (text : String) : Except ValueFault Json.Format :=
  match formatChoices.lookup text with
  | some (format, _) => .ok format
  | none => .error (if text.isEmpty then .absent else .notAChoice)

def globalArguments : List Argument := [
  { long := "token", valueName := "TOKEN", order := 5
    about := "Secret API token for production data", envName := some "IEX_SECRET_KEY"
    action := .set fun v d => .ok { d with globals.token := some v } },
  { long := "sandbox-token", valueName := "SANDBOX_TOKEN", order := 6
    about := "Secret API token for sandbox data", envName := some "IEX_SANDBOX_SECRET_KEY"
    action := .set fun v d => .ok { d with globals.sandboxToken := some v } },
  { long := "sandbox", order := 7, about := "Query the sandbox instead of production data"
    action := .flag fun d => { d with globals.sandbox := true } },
  { long := "base-url", valueName := "BASE_URL", order := 8, hidden := true
    about := "Override the API host (e.g. for a local mock)"
    action := .set fun v d => .ok { d with globals.baseUrl := some v } },
  { short := some 'f', long := "format", valueName := "FORMAT", order := 9
    about := "Output format", default := some "pretty"
    choices := formatChoices.map fun (name, _, about) => (name, about)
    action := .set fun v d => do return { d with globals.format := some (← readFormat v) } },
  { short := some 'v', long := "verbose", order := 10
    about := "Verbosity level (-v, -vv, -vvv)", action := .count }]

def helpArgument : Argument where
  short := some 'h'
  long := "help"
  about := "Print help"
  action := .help

def versionArgument : Argument where
  short := some 'V'
  long := "version"
  about := "Print version"
  action := .version

def getArguments : List Argument := [
  { short := some 'p', long := "param", valueName := "PARAMS", order := 0
    about := "Query parameter as key=value (repeatable)"
    action := .append fun v d => do
      return { d with request.params := d.request.params ++ [← readParam v] } },
  { long := "max-connections", valueName := "MAX_CONNECTIONS", order := 1
    about := "Maximum parallel connections (0 for no limit)", default := some "0"
    action := .set fun v d => do
      return { d with request.maxConnections := ← readNatural largest64 v } },
  { long := "retries", valueName := "RETRIES", order := 2
    about := "Maximum retries per request", default := some "0"
    action := .set fun v d => do
      let retries := UInt32.ofNat (← readRanged largestSigned64 4294967295 v)
      return { d with request.retries := retries } },
  { long := "retry-on", valueName := "RETRY_ON", order := 3
    about := "HTTP status that triggers a retry (repeatable)"
    action := .append fun v d => do
      let status := UInt16.ofNat (← readRanged largestSigned64 65535 v)
      return { d with request.retryOn := d.request.retryOn ++ [status] } },
  { long := "retry-empty", order := 4, about := "Retry when the response body is empty"
    action := .flag fun d => { d with request.retryEmpty := true } },
  { long := "backoff-ms", valueName := "BACKOFF_MS", order := 5
    about := "Delay before each retry, in milliseconds", default := some "40"
    action := .set fun v d => do return { d with request.backoff := ← readNatural largest64 v } }]

/-- What a command does with words that are no options. -/
inductive Positional
  | takesNone
  | takesOne (valueName about : String)
  | takesMany (valueName about : String)
deriving DecidableEq, Repr

inductive CommandName
  | status
  | symbols
  | quote
  | company
  | get
deriving DecidableEq, Repr

namespace CommandName

def all : List CommandName := [status, symbols, quote, company, get]

def text : CommandName → String
  | status => "status"
  | symbols => "symbols"
  | quote => "quote"
  | company => "company"
  | get => "get"

def about : CommandName → String
  | status => "Show the API system status"
  | symbols => "List every symbol IEX Cloud supports"
  | quote => "Show the latest quote for one or more symbols"
  | company => "Show the company profile for one or more symbols"
  | get => "Fetch any URL returning JSON with the rate-limited engine"

def ofText? (word : String) : Option CommandName := all.find? (·.text == word)

def positional : CommandName → Positional
  | status | symbols => .takesNone
  | quote | company => .takesMany "SYMBOLS" "Ticker symbols (e.g., aapl msft)"
  | get => .takesOne "BASE" "URL without query string"

def arguments : CommandName → List Argument
  | get => getArguments ++ globalArguments ++ [helpArgument]
  | _ => globalArguments ++ [helpArgument]

end CommandName

def programName : String := "iexcloud"

def programVersion : String := "0.2.0"

def programAbout : String := "Query IEX Cloud market data"

def rootArguments : List Argument := globalArguments ++ [helpArgument, versionArgument]

def helpCommandText : String := "help"

def helpCommandAbout : String := "Print this message or the help of the given subcommand(s)"

end MarketData.CommandLine
