import MarketData.CommandLine.Arguments
import MarketData.Text.Terminal

/-! Reading the words of a command line. Words are taken one after the other; the value of an option
is checked when the next option or argument begins, or at the end, and one that is attached to its
option at once. The options before a command are checked after everything that follows it. -/

namespace MarketData.CommandLine

open Terminal (alert invalid literal)

/-- Why a command line makes no sense. -/
inductive UsageError
  | missingArguments
  | unknownCommand (word : String)
  | unknownArgument (word : String)
  | repeated (argument : String)
  | missingValue (argument : String)
  | badValue (value argument : String) (reason : Option String)
  | needlessValue (value argument : String)
deriving DecidableEq, Repr

/-- The message as it is written to a terminal: what is wrong stands out, and so do names. -/
def UsageError.message : UsageError → String
  | .missingArguments => "the following required arguments were not provided:"
  | .unknownCommand word => "unrecognized subcommand '" ++ invalid word ++ "'"
  | .unknownArgument word => "unexpected argument '" ++ invalid word ++ "' found"
  | .repeated argument => "the argument '" ++ invalid argument ++ "' cannot be used multiple times"
  | .missingValue argument =>
    "a value is required for '" ++ invalid argument ++ "' but none was supplied"
  | .badValue value argument reason =>
    "invalid value '" ++ invalid value ++ "' for '" ++ literal argument ++ "'" ++
      reason.elim "" (": " ++ ·)
  | .needlessValue value argument =>
    "unexpected value '" ++ invalid value ++ "' for '" ++ literal argument ++
      "' found; no more were expected"

/-- The whole report on a line that makes no sense, as it is written to a terminal. -/
def UsageError.report (e : UsageError) : String :=
  alert "error:" ++ " " ++ e.message ++
    "\n\nFor more information, try '" ++ literal "--help" ++ "'.\n"

/-- What a help text is about. -/
inductive HelpTopic
  | program
  | command (name : CommandName)
  | helpCommand
deriving DecidableEq, Repr

/-- Why the words of a command line are not read to the end. -/
inductive Stop
  | usage (error : UsageError)
  | help (topic : HelpTopic) (long : Bool)
  | version
deriving DecidableEq, Repr

/-- The program, or one of its commands. -/
abbrev Level := Option CommandName

namespace Level

def arguments (level : Level) : List Argument := level.elim rootArguments (·.arguments)

def topic (level : Level) : HelpTopic := level.elim .program .command

end Level

/-- How far the words of one level have been read. -/
structure Progress where
  draft : Draft := {}
  /-- The names of options that may not be given again. -/
  given : List String := []
  /-- An option whose value is not stored yet. -/
  pending : Option (Argument × Option String) := none
  /-- The next word is the value of the pending option. -/
  awaiting : Bool := false
  /-- No word is an option any more. -/
  escaped : Bool := false

namespace Progress

def storeWith (a : Argument) (value : String)
    (store : String → Draft → Except ValueFault Draft) (p : Progress) : Except Stop Progress :=
  match store value p.draft with
  | .ok draft => .ok { p with draft }
  | .error .absent => .error (.usage (.missingValue a.name))
  | .error .notAChoice => .error (.usage (.badValue value a.name none))
  | .error (.rejected reason) => .error (.usage (.badValue value a.name (some reason)))

/-- Notes that an option was given, which can happen once. -/
def note (a : Argument) (p : Progress) : Except Stop Progress :=
  if p.given.contains a.long then .error (.usage (.repeated a.name))
  else .ok { p with given := a.long :: p.given }

def store (a : Argument) (value : String) (p : Progress) : Except Stop Progress :=
  match a.action with
  | .set store => do (← p.note a).storeWith a value store
  | .append store => p.storeWith a value store
  | _ => .ok p

/-- Stores the value of the pending option. -/
def settle (p : Progress) : Except Stop Progress :=
  let p' := { p with pending := none, awaiting := false }
  match p.pending with
  | none => .ok p'
  | some (a, none) => .error (.usage (.missingValue a.name))
  | some (a, some value) => p'.store a value

/-- An option that needs no word after it: a flag, or an option with its value attached. -/
def option (level : Level) (long : Bool) (a : Argument) (attached : Option String) (p : Progress) :
    Except Stop Progress :=
  match attached with
  | some value => do (← p.settle).store a value
  | none => do
    let p ← p.settle
    match a.action with
    | .set _ | .append _ => .ok { p with pending := some (a, none), awaiting := true }
    | .flag store => do
      let p ← p.note a
      return { p with draft := store p.draft }
    | .count => .ok p
    | .help => .error (.help level.topic long)
    | .version => .error .version

/-- The name of a long option and the value attached to it. -/
def splitLong (cs : List Char) : String × Option String :=
  match cs.dropWhile (· != '=') with
  | _ :: value => (String.ofList (cs.takeWhile (· != '=')), some (String.ofList value))
  | [] => (String.ofList cs, none)

def long (level : Level) (cs : List Char) (p : Progress) : Except Stop Progress :=
  let (name, attached) := splitLong cs
  match level.arguments.find? (·.long == name) with
  | none => .error (.usage (.unknownArgument ("--" ++ name)))
  | some a =>
    match attached with
    | some value =>
      if a.takesValue then p.option level true a (some value)
      else .error (.usage (.needlessValue value a.name))
    | none => p.option level true a none

/-- Short options written together; what follows one that takes a value is its value. -/
def short (level : Level) : List Char → Progress → Except Stop Progress
  | [], p => .ok p
  | c :: rest, p =>
    match level.arguments.find? (·.short == some c) with
    | none => .error (.usage (.unknownArgument ("-" ++ String.singleton c)))
    | some a =>
      if a.takesValue then
        let attached :=
          match rest with
          | [] => none
          | '=' :: value => some (String.ofList value)
          | value => some (String.ofList value)
        p.option level false a attached
      else do short level rest (← p.option level false a none)

def positional (level : Level) (word : String) (p : Progress) : Except Stop Progress :=
  let add : Except Stop Progress := do
    let p ← p.settle
    return { p with draft.positionals := p.draft.positionals ++ [word] }
  match level with
  | none =>
    if p.escaped && (word == helpCommandText || (CommandName.ofText? word).isSome) then
      .error (.usage (.unknownArgument word))
    else .error (.usage (.unknownCommand word))
  | some name =>
    match name.positional with
    | .takesMany .. => add
    | .takesOne .. =>
      if p.draft.positionals.isEmpty then add else .error (.usage (.unknownArgument word))
    | .takesNone => .error (.usage (.unknownArgument word))

def word (level : Level) (word : String) (p : Progress) : Except Stop Progress :=
  if p.escaped then p.positional level word
  else
    match word.toList with
    | ['-', '-'] => .ok { p with escaped := true, awaiting := false }
    | '-' :: '-' :: rest => p.long level rest
    | '-' :: c :: rest => p.short level (c :: rest)
    | _ =>
      match p.awaiting, p.pending with
      | true, some (a, _) => .ok { p with pending := some (a, some word), awaiting := false }
      | _, _ => p.positional level word

end Progress

/-- A command with what was given for it. -/
inductive Command
  | status
  | symbols
  | quote (symbols : List String)
  | company (symbols : List String)
  | get (request : GetRequest)
deriving DecidableEq, Repr

/-- A command line that makes sense. -/
structure Invocation where
  globals : Globals
  command : Option Command
deriving DecidableEq, Repr

/-- The command that a draft amounts to, if nothing is missing. -/
def Draft.command (draft : Draft) : CommandName → Except Stop Command
  | .status => .ok .status
  | .symbols => .ok .symbols
  | .quote => stock .quote
  | .company => stock .company
  | .get =>
    match draft.positionals with
    | base :: _ => .ok (.get { draft.request with base })
    | [] => .error (.usage .missingArguments)
where
  stock (command : List String → Command) : Except Stop Command :=
    if draft.positionals.isEmpty then .error (.usage .missingArguments)
    else .ok (command draft.positionals)

/-- The words after the name of a command. -/
def readCommand (name : CommandName) (words : List String) : Except Stop (Globals × Command) := do
  let progress ← words.foldlM (fun p word => p.word (some name) word) ({} : Progress)
  let progress ← progress.settle
  let command ← progress.draft.command name
  return (progress.draft.globals, command)

/-- The words after the help command. -/
def helpOn : List String → Stop
  | [] => .help .program true
  | word :: rest =>
    let topic :=
      if word == helpCommandText then some .helpCommand
      else (CommandName.ofText? word).map HelpTopic.command
    match topic, rest with
    | none, _ => .usage (.unknownCommand word)
    | some topic, [] => .help topic true
    | some _, next :: _ => .usage (.unknownCommand next)

/-- The words of the whole line, up to the command and with it. -/
def readWords : List String → Progress → Except Stop Invocation
  | [], p => do
    let p ← p.settle
    return ⟨p.draft.globals, none⟩
  | word :: rest, p =>
    if p.escaped || p.awaiting then do readWords rest (← p.word none word)
    else if word == helpCommandText then .error (helpOn rest)
    else
      match CommandName.ofText? word with
      | none => do readWords rest (← p.word none word)
      | some name => do
        let (inner, command) ← readCommand name rest
        let p ← p.settle
        return ⟨inner.over p.draft.globals, some command⟩

/-- Variables stand in for the tokens that are not given. -/
def Globals.withVariables (vars : List (String × String)) (g : Globals) : Globals :=
  { g with
    token := g.token <|> vars.lookup "IEX_SECRET_KEY"
    sandboxToken := g.sandboxToken <|> vars.lookup "IEX_SANDBOX_SECRET_KEY" }

def Invocation.read (vars : List (String × String)) (words : List String) :
    Except Stop Invocation := do
  let invocation ← readWords words {}
  return { invocation with globals := invocation.globals.withVariables vars }

end MarketData.CommandLine
