import MarketData.Text.Bytes

/-! What can be wrong with a JSON text, and where. -/

namespace MarketData.Json

inductive Problem
  | endInList
  | endInObject
  | endInString
  | endInValue
  | expectedColon
  | expectedCommaOrListEnd
  | expectedCommaOrObjectEnd
  | expectedIdent
  | expectedValue
  | invalidEscape
  | invalidNumber
  | numberOutOfRange
  | invalidUnicode
  | controlCharacter
  | keyNotString
  | loneSurrogate
  | unfinishedSurrogatePair
  | tooDeep
  | trailingCharacters
  | trailingComma
  | unknownName (name : String) (known : List String)
  | wrongType (found expected : String)
deriving DecidableEq, Repr

/-- `a`, or `a` or `b`, or one of all of them. -/
def alternatives : List String → String
  | [] => "there are no variants"
  | names =>
    let quoted := names.map fun name => "`" ++ name ++ "`"
    match quoted with
    | [a] => a
    | [a, b] => a ++ " or " ++ b
    | many => "one of " ++ ", ".intercalate many

def Problem.message : Problem → String
  | .endInList => "EOF while parsing a list"
  | .endInObject => "EOF while parsing an object"
  | .endInString => "EOF while parsing a string"
  | .endInValue => "EOF while parsing a value"
  | .expectedColon => "expected `:`"
  | .expectedCommaOrListEnd => "expected `,` or `]`"
  | .expectedCommaOrObjectEnd => "expected `,` or `\x7d`"
  | .expectedIdent => "expected ident"
  | .expectedValue => "expected value"
  | .invalidEscape => "invalid escape"
  | .invalidNumber => "invalid number"
  | .numberOutOfRange => "number out of range"
  | .invalidUnicode => "invalid unicode code point"
  | .controlCharacter => "control character (\\u0000-\\u001F) found while parsing a string"
  | .keyNotString => "key must be a string"
  | .loneSurrogate => "lone leading surrogate in hex escape"
  | .unfinishedSurrogatePair => "unexpected end of hex escape"
  | .tooDeep => "recursion limit exceeded"
  | .trailingCharacters => "trailing characters"
  | .trailingComma => "trailing comma"
  | .unknownName name known =>
    "unknown variant `" ++ name ++ "`, expected " ++ alternatives known
  | .wrongType found expected => "invalid type: " ++ found ++ ", expected " ++ expected

/-- Lines count from one; a column is the number of bytes read on the line. -/
structure Error where
  problem : Problem
  line : Nat
  column : Nat
deriving DecidableEq, Repr

namespace Error

def newline : UInt8 := 10

/-- The place after the first `consumed` bytes of `input`. -/
def located (problem : Problem) (input : Bytes) (consumed : Nat) : Error :=
  let read := input.take consumed
  ⟨problem, 1 + read.count newline, (read.reverse.takeWhile (· != newline)).length⟩

def message (e : Error) : String :=
  e.problem.message ++ " at line " ++ toString e.line ++ " column " ++ toString e.column

end Error

end MarketData.Json
