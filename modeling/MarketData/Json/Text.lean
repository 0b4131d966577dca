import MarketData.Json.Number

/-! Strings inside a JSON text: how their characters are escaped, and how they are read back. -/

namespace MarketData.Json.Text

/-- Quotes, backslashes and control characters are escaped; everything else stands as it is. -/
def encodeChar (c : Char) : List Char :=
  match c with
  | '"' => ['\\', '"']
  | '\\' => ['\\', '\\']
  | '\x08' => ['\\', 'b']
  | '\x0c' => ['\\', 'f']
  | '\n' => ['\\', 'n']
  | '\r' => ['\\', 'r']
  | '\t' => ['\\', 't']
  | c =>
    if c.toNat < 32 then
      ['\\', 'u', '0', '0', Nat.digitChar (c.toNat / 16), Nat.digitChar (c.toNat % 16)]
    else [c]

def encode (s : String) : List Char := '"' :: s.toList.flatMap encodeChar ++ ['"']

def hexValue? (b : UInt8) : Option Nat :=
  if isDigit b then some (b.toNat - 48)
  else if byte 'a' ≤ b && b ≤ byte 'f' then some (b.toNat - 87)
  else if byte 'A' ≤ b && b ≤ byte 'F' then some (b.toNat - 55)
  else none

def hexValue4? (a b c d : UInt8) : Option Nat := do
  return 16 * (16 * (16 * (← hexValue? a) + (← hexValue? b)) + (← hexValue? c)) + (← hexValue? d)

/-- Four hexadecimal digits. -/
def codeUnit : Reader Nat
  | a :: b :: c :: d :: rest =>
    match hexValue4? a b c d with
    | some n => .ok (n, rest)
    | none => halt .invalidEscape rest
  | _ => halt .endInString []

def isLeading (unit : Nat) : Bool := 0xD800 ≤ unit && unit ≤ 0xDBFF

def isTrailing (unit : Nat) : Bool := 0xDC00 ≤ unit && unit ≤ 0xDFFF

def utf8 (code : Nat) : Bytes := String.utf8EncodeChar (Char.ofNat code)

/-- The second half of a surrogate pair, written like the first. -/
def trailingUnit (leading : Nat) : Reader Bytes
  | [] => halt .endInString []
  | b :: rest =>
    if b != byte '\\' then halt .unfinishedSurrogatePair rest
    else
      match rest with
      | [] => halt .endInString []
      | u :: rest =>
        if u != byte 'u' then halt .unfinishedSurrogatePair rest
        else do
          let (trailing, rest) ← codeUnit rest
          if isTrailing trailing then
            .ok (utf8 (0x10000 + 0x400 * (leading - 0xD800) + (trailing - 0xDC00)), rest)
          else halt .loneSurrogate rest

/-- The bytes of the character that a code unit, or a pair of them, stands for. -/
def unicodeEscape : Reader Bytes := fun rest => do
  let (unit, rest) ← codeUnit rest
  if isTrailing unit then halt .loneSurrogate rest
  else if isLeading unit then trailingUnit unit rest
  else .ok (utf8 unit, rest)

def shortEscapes : List (Char × Char) :=
  [('"', '"'), ('\\', '\\'), ('/', '/'), ('b', '\x08'), ('f', '\x0c'), ('n', '\n'), ('r', '\r'),
   ('t', '\t')]

/-- What follows a backslash. -/
def escape : Reader Bytes
  | [] => halt .endInString []
  | b :: rest =>
    if b == byte 'u' then unicodeEscape rest
    else
      match shortEscapes.find? (byte ·.1 == b) with
      | some (_, c) => .ok ([byte c], rest)
      | none => halt .invalidEscape rest

/-- The bytes up to the closing quote; every round of the loop takes at least one byte. -/
def body : Nat → Reader Bytes
  | 0, rest => halt .endInString rest
  | _ + 1, [] => halt .endInString []
  | fuel + 1, b :: rest =>
    if b == byte '"' then .ok ([], rest)
    else if b == byte '\\' then do
      let (bytes, rest) ← escape rest
      let (more, rest) ← body fuel rest
      .ok (bytes ++ more, rest)
    else if b < 32 then halt .controlCharacter rest
    else do
      let (more, rest) ← body fuel rest
      .ok (b :: more, rest)

/-- A string after its opening quote. -/
def read : Reader String := fun rest => do
  let (bytes, rest) ← body (rest.length + 1) rest
  match Bytes.toString? bytes with
  | some s => .ok (s, rest)
  | none => halt .invalidUnicode rest

end MarketData.Json.Text
