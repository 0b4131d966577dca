import MarketData.Json.Text

/-! Reading a JSON text. Arrays and objects nest at most `deepest` deep; of equal keys in an object
the last one counts. -/

namespace MarketData.Json

def isBlank (b : UInt8) : Bool :=
  b == byte ' ' || b == byte '\t' || b == byte '\n' || b == byte '\r'

def skipBlanks (rest : Bytes) : Bytes := rest.dropWhile isBlank

/-- The rest of a word whose first letter was read. -/
def word : Bytes → Bytes → Except Halt Bytes
  | [], rest => .ok rest
  | _ :: _, [] => halt .endInValue []
  | expected :: more, b :: rest =>
    if b == expected then word more rest else halt .expectedIdent rest

def asciiBytes (s : String) : Bytes := s.toList.map byte

/-- The elements after the first, each behind a comma, up to the closing bracket. -/
def moreItems {α : Type} (read : Reader α) : Nat → Reader (List α)
  | 0, rest => haltOn .endInList rest
  | fuel + 1, rest =>
    match skipBlanks rest with
    | [] => haltOn .endInList []
    | b :: r =>
      if b == byte ']' then .ok ([], r)
      else if b == byte ',' then
        match skipBlanks r with
        | [] => haltOn .endInValue []
        | c :: r =>
          if c == byte ']' then haltOn .trailingComma (c :: r)
          else do
            let (x, r) ← read (c :: r)
            let (xs, r) ← moreItems read fuel r
            .ok (x :: xs, r)
      else haltOn .expectedCommaOrListEnd (b :: r)

/-- A list after its opening bracket. -/
def items {α : Type} (read : Reader α) : Reader (List α) := fun rest =>
  match skipBlanks rest with
  | [] => haltOn .endInList []
  | b :: r =>
    if b == byte ']' then .ok ([], r)
    else do
      let (x, r) ← read (b :: r)
      let (xs, r) ← moreItems read (r.length + 1) r
      .ok (x :: xs, r)

def colon (rest : Bytes) : Except Halt Bytes :=
  match skipBlanks rest with
  | [] => haltOn .endInObject []
  | b :: r => if b == byte ':' then .ok r else haltOn .expectedColon (b :: r)

/-- A key, its colon and its value; `rest` starts at the key. -/
def member {α : Type} (read : Reader α) : Reader (String × α)
  | [] => haltOn .keyNotString []
  | b :: r =>
    if b == byte '"' then do
      let (key, r) ← Text.read r
      let r ← colon r
      let (value, r) ← read r
      .ok ((key, value), r)
    else haltOn .keyNotString (b :: r)

/-- The members after the first, each behind a comma, up to the closing brace. -/
def moreMembers {α : Type} (read : Reader α) : Nat → Reader (List (String × α))
  | 0, rest => haltOn .endInObject rest
  | fuel + 1, rest =>
    match skipBlanks rest with
    | [] => haltOn .endInObject []
    | b :: r =>
      if b == byte '}' then .ok ([], r)
      else if b == byte ',' then
        match skipBlanks r with
        | [] => haltOn .endInValue []
        | c :: r =>
          if c == byte '}' then haltOn .trailingComma (c :: r)
          else do
            let (m, r) ← member read (c :: r)
            let (ms, r) ← moreMembers read fuel r
            .ok (m :: ms, r)
      else haltOn .expectedCommaOrObjectEnd (b :: r)

/-- An object after its opening brace, members as written. -/
def members {α : Type} (read : Reader α) : Reader (List (String × α)) := fun rest =>
  match skipBlanks rest with
  | [] => haltOn .endInObject []
  | b :: r =>
    if b == byte '}' then .ok ([], r)
    else do
      let (m, r) ← member read (b :: r)
      let (ms, r) ← moreMembers read (r.length + 1) r
      .ok (m :: ms, r)

namespace Value

/-- The members in key order, the last of equal keys. -/
def ofMembers (written : List (String × Value)) : Value :=
  .object (written.foldl (fun members m => Entries.set m.1 m.2 members) [])

/-- A value whose elements `inner` reads; with no `inner` there may be none. -/
def readWith (inner : Option (Reader Value)) : Reader Value := fun rest =>
  match skipBlanks rest with
  | [] => haltOn .endInValue []
  | b :: r =>
    if b == byte 'n' then (word (asciiBytes "ull") r).map (Value.null, ·)
    else if b == byte 't' then (word (asciiBytes "rue") r).map (Value.boolean true, ·)
    else if b == byte 'f' then (word (asciiBytes "alse") r).map (Value.boolean false, ·)
    else if b == byte '-' then (Number.read true r).map fun (n, r) => (.number n, r)
    else if isDigit b then (Number.read false (b :: r)).map fun (n, r) => (.number n, r)
    else if b == byte '"' then (Text.read r).map fun (s, r) => (.text s, r)
    else if b == byte '[' then
      match inner with
      | none => haltOn .tooDeep (b :: r)
      | some read => (items read r).map fun (xs, r) => (.array xs, r)
    else if b == byte '{' then
      match inner with
      | none => haltOn .tooDeep (b :: r)
      | some read => (members read r).map fun (ms, r) => (ofMembers ms, r)
    else haltOn .expectedValue (b :: r)

/-- A value with at most `depth` levels of arrays and objects. -/
def read : Nat → Reader Value
  | 0 => readWith none
  | depth + 1 => readWith (some (read depth))

def deepest : Nat := 127

end Value

/-- The whole text is one value and blanks around it. -/
def parse {α : Type} (read : Reader α) (input : Bytes) : Except Error α :=
  let result := do
    let (x, rest) ← read input
    match skipBlanks rest with
    | [] => .ok x
    | b :: r => haltOn .trailingCharacters (b :: r)
  match result with
  | .ok x => .ok x
  | .error h => .error (Error.located h.problem input (input.length - h.unread))

def Value.parse (input : Bytes) : Except Error Value := Json.parse (Value.read Value.deepest) input

end MarketData.Json
