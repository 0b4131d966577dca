import MarketData.Text.CodePoints
import MarketData.Text.UnprintableTable

/-! Text in double quotes, as it stands in diagnostic output: quotes and backslashes are escaped,
and a character that would not show is written by its code point. -/

namespace MarketData.Quoted

def isUnprintable (c : Char) : Bool := CodePoints.inRanges c.toNat unprintable

/-- Lower-case hexadecimal digits without leading zeros. -/
def hex (n : Nat) : List Char := Nat.toDigits 16 n

def encodeChar (c : Char) : List Char :=
  match c with
  | '\x00' => ['\\', '0']
  | '\t' => ['\\', 't']
  | '\r' => ['\\', 'r']
  | '\n' => ['\\', 'n']
  | '"' => ['\\', '"']
  | '\\' => ['\\', '\\']
  | c => if isUnprintable c then ['\\', 'u', '{'] ++ hex c.toNat ++ ['}'] else [c]

def encode (s : String) : String :=
  String.ofList ('"' :: s.toList.flatMap encodeChar ++ ['"'])

end MarketData.Quoted
