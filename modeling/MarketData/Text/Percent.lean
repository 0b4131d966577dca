import MarketData.Text.Bytes

/-! Percent coding of text: a character outside `A-Z a-z 0-9 - . _ ~` is written as its UTF-8 bytes,
each a `%` and two upper-case hexadecimal digits. `decode` reads the written form back. -/

namespace MarketData.Percent

def isPlain (c : Char) : Bool :=
  c.isAlphanum || c == '-' || c == '.' || c == '_' || c == '~'

/-- One hexadecimal digit, upper case. -/
def hexDigit (n : Nat) : Char :=
  if n < 10 then Char.ofNat (48 + n) else Char.ofNat (55 + n)

def hexValue? (c : Char) : Option Nat :=
  if '0' ≤ c ∧ c ≤ '9' then some (c.toNat - 48)
  else if 'A' ≤ c ∧ c ≤ 'F' then some (c.toNat - 55)
  else if 'a' ≤ c ∧ c ≤ 'f' then some (c.toNat - 87)
  else none

def encodeByte (b : UInt8) : List Char :=
  ['%', hexDigit (b.toNat / 16), hexDigit (b.toNat % 16)]

def encodeChar (c : Char) : List Char :=
  if isPlain c then [c] else (String.utf8EncodeChar c).flatMap encodeByte

def encodeChars (cs : List Char) : List Char := cs.flatMap encodeChar

def encode (s : String) : String := String.ofList (encodeChars s.toList)

/-- The bytes a written text stands for; a `%` that two hexadecimal digits do not follow stands for
itself. -/
def decodeBytes : List Char → Bytes
  | [] => []
  | '%' :: a :: b :: rest =>
    match hexValue? a, hexValue? b with
    | some x, some y => UInt8.ofNat (16 * x + y) :: decodeBytes rest
    | _, _ => 37 :: decodeBytes (a :: b :: rest)
  | c :: rest => String.utf8EncodeChar c ++ decodeBytes rest

/-- Fails where the bytes are no UTF-8. -/
def decode (s : String) : Option String :=
  Bytes.toString? (decodeBytes s.toList)

end MarketData.Percent
