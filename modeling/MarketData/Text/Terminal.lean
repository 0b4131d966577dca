/-! Text for a terminal. Between the characters that show there may be control sequences, which set
colours and the like; where text does not go to a terminal they are left out. -/

namespace MarketData.Terminal

def escape : Char := '\x1b'

/-- What is to be written as it stands. -/
def literal (s : String) : String := "\x1b[1m" ++ s ++ "\x1b[0m"

def heading (s : String) : String := "\x1b[1m\x1b[4m" ++ s ++ "\x1b[0m"

def alert (s : String) : String := "\x1b[1m\x1b[31m" ++ s ++ "\x1b[0m"

/-- What is wrong. -/
def invalid (s : String) : String := "\x1b[33m" ++ s ++ "\x1b[0m"

/-- How much of a control sequence was read. -/
inductive State
  | ground
  | escape
  | escapeIntermediate
  /-- Parameters, up to a letter. -/
  | parameters
  /-- The head of a device control string. -/
  | deviceEntry
  | deviceParameters
  | deviceIntermediate
  /-- A string that is ended by a string terminator. -/
  | controlString
  /-- A command to the system, which a bell ends. -/
  | systemCommand
deriving DecidableEq, Repr

def isBlankControl (c : Char) : Bool := c == '\t' || c == '\n' || c == '\x0c' || c == '\r'

/-- The character shows outside control sequences. -/
def isShown (c : Char) : Bool := ' ' ≤ c && c != '\x7f' || isBlankControl c

/-- A byte of the character's coding is the string terminator. -/
def endsString (c : Char) : Bool := 0x80 ≤ c.toNat && (String.utf8EncodeChar c).contains 0x9c

namespace State

/-- The character shows although it may stand in a control sequence. -/
def shows (s : State) (c : Char) : Bool :=
  match s with
  | ground => isShown c
  | escape | escapeIntermediate | parameters => isBlankControl c
  | _ => false

def afterEscape (c : Char) : State :=
  if c == '[' then parameters
  else if c == ']' then systemCommand
  else if c == 'P' then deviceEntry
  else if c == 'X' || c == '^' || c == '_' then controlString
  else if ' ' ≤ c && c ≤ '/' then escapeIntermediate
  else if '0' ≤ c && c ≤ '~' then ground
  else escape

/-- Inside the head of a device control string; `parameter` tells what a parameter leads to, and
`marker` what one of the four characters before the letters leads to. -/
def afterDevice (s parameter marker : State) (c : Char) : State :=
  if ' ' ≤ c && c ≤ '/' then deviceIntermediate
  else if '0' ≤ c && c ≤ ';' then parameter
  else if '<' ≤ c && c ≤ '?' then marker
  else if '@' ≤ c && c ≤ '~' then controlString
  else s

def next (s : State) (c : Char) : State :=
  if c == '\x18' || c == '\x1a' then ground
  else if c == Terminal.escape then escape
  else
    match s with
    | ground => ground
    | escape => afterEscape c
    | escapeIntermediate => if '0' ≤ c && c ≤ '~' then ground else s
    | parameters => if '@' ≤ c && c ≤ '~' then ground else s
    | deviceEntry => afterDevice s deviceParameters deviceParameters c
    | deviceParameters => afterDevice s deviceParameters controlString c
    | deviceIntermediate => afterDevice s controlString controlString c
    | controlString => if endsString c then ground else s
    | systemCommand => if c == '\x07' then ground else s

end State

/-- What shows of some text. A blank inside a control sequence shows, and with it all that follows
up to a control character; then the sequence goes on, unless there was a character outside ASCII. -/
def shown (s : State) (running : Bool) : List Char → List Char
  | [] => []
  | c :: rest =>
    if running && isShown c then
      c :: shown (if c.toNat < 0x80 then s else .ground) true rest
    else if s.shows c then c :: shown (s.next c) true rest
    else shown (s.next c) false rest

/-- The text without control sequences and control characters. -/
def strip (text : String) : String := String.ofList (shown .ground false text.toList)

/-- The number of characters that show. -/
def width (text : String) : Nat := (strip text).length

/-- What reaches an output that is no terminal, where variables may ask for control sequences all
the same, or for none at all. -/
def toFile (vars : List (String × String)) (text : String) : String :=
  let holds (name : String) : Bool := (vars.lookup name).any (!·.isEmpty)
  if holds "CLICOLOR_FORCE" && !holds "NO_COLOR" then text else strip text

end MarketData.Terminal
