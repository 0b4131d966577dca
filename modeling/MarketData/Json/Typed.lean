import MarketData.Json.Read
import MarketData.Json.Writer
import MarketData.Text.Quoted

/-! Reading a JSON text that has to be of a given type: a string, one of some names, or a list. -/

namespace MarketData.Json.Typed

/-- Reports what stands at the start of `rest` in place of what was expected. A scalar is read
first, so that an error inside it comes before. -/
def wrongType {α : Type} (expected : String) (rest : Bytes) : Except Halt α :=
  let found (name : String) (r : Bytes) : Except Halt α := halt (.wrongType name expected) r
  let foundNumber : Number × Bytes → Except Halt α
    | (.integer n, r) => found ("integer `" ++ toString n ++ "`") r
    | (.double x, r) => found ("floating point `" ++ Number.doubleText x ++ "`") r
  match rest with
  | [] => haltOn .expectedValue []
  | b :: r =>
    if b == byte 'n' then word (asciiBytes "ull") r >>= found "null"
    else if b == byte 't' then word (asciiBytes "rue") r >>= found "boolean `true`"
    else if b == byte 'f' then word (asciiBytes "alse") r >>= found "boolean `false`"
    else if b == byte '-' then Number.read true r >>= foundNumber
    else if isDigit b then Number.read false (b :: r) >>= foundNumber
    else if b == byte '"' then do
      let (s, r) ← Text.read r
      found ("string " ++ Quoted.encode s) r
    else if b == byte '[' then found "sequence" (b :: r)
    else if b == byte '{' then found "map" (b :: r)
    else haltOn .expectedValue (b :: r)

def text : Reader String := fun rest =>
  match skipBlanks rest with
  | [] => haltOn .endInValue []
  | b :: r => if b == byte '"' then Text.read r else wrongType "a string" (b :: r)

def null : Reader Unit := fun rest =>
  match skipBlanks rest with
  | [] => haltOn .endInValue []
  | b :: r =>
    if b == byte 'n' then (word (asciiBytes "ull") r).map ((), ·) else wrongType "unit" (b :: r)

/-- One of the given names, after its opening quote. -/
def name {α : Type} (names : List (String × α)) : Reader α := fun rest => do
  let (s, rest) ← Text.read rest
  match names.lookup s with
  | some x => .ok (x, rest)
  | none => halt (.unknownName s (names.map (·.1))) rest

/-- The only member of an object, after its opening brace: a name with null under it. -/
def nameMember {α : Type} (names : List (String × α)) : Reader α := fun rest =>
  match skipBlanks rest with
  | [] => haltOn .endInObject []
  | b :: r =>
    if b == byte '"' then do
      let (x, r) ← name names r
      let r ← colon r
      let (_, r) ← null r
      match skipBlanks r with
      | [] => halt .endInObject []
      | c :: r => if c == byte '}' then .ok (x, r) else halt .expectedValue (c :: r)
    else if b == byte '}' then haltOn .expectedValue (b :: r)
    else haltOn .keyNotString (b :: r)

/-- A name, alone or as the only key of an object that holds null under it. -/
def choice {α : Type} (names : List (String × α)) : Reader α := fun rest =>
  match skipBlanks rest with
  | [] => haltOn .endInValue []
  | b :: r =>
    if b == byte '"' then name names r
    else if b == byte '{' then nameMember names r
    else haltOn .expectedValue (b :: r)

def list {α : Type} (read : Reader α) : Reader (List α) := fun rest =>
  match skipBlanks rest with
  | [] => haltOn .endInValue []
  | b :: r => if b == byte '[' then items read r else wrongType "a sequence" (b :: r)

end MarketData.Json.Typed
