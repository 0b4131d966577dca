import MarketData.Address.Basic
import MarketData.Domain.Name
import MarketData.Text.Decimal

/-! The normal forms of hosts: domain names, numeric addresses, and text of any kind for schemes
that do not say what a host is. -/

namespace MarketData.Address

def hexDigits (n : Nat) : String := String.ofList (Nat.toDigits 16 n)

def hexNumber? (cs : List Char) : Option Nat :=
  cs.foldlM (fun n c => do return 16 * n + (← Percent.hexValue? c)) 0

def octalNumber? (cs : List Char) : Option Nat :=
  cs.foldlM (fun n c => if '0' ≤ c ∧ c ≤ '7' then some (8 * n + (c.toNat - 48)) else none) 0

/-- A number in decimal, octal after `0`, or hexadecimal after `0x`. -/
def ipv4Number? : List Char → Option Nat
  | [] => none
  | '0' :: 'x' :: rest | '0' :: 'X' :: rest => hexNumber? rest
  | ['0'] => some 0
  | '0' :: rest => octalNumber? rest
  | cs => if cs.all Char.isDigit then some (Decimal.value cs) else none

/-- The labels of a host name, without the empty one after a final dot. -/
def labels (cs : List Char) : List (List Char) :=
  let pieces := Cut.pieces (· == '.') cs
  if pieces.length > 1 && pieces.getLast? == some [] then pieces.dropLast else pieces

/-- A host whose last label is a number is a numeric address. -/
def endsInNumber (cs : List Char) : Bool :=
  match (labels cs).getLast? with
  | none => false
  | some last =>
    !last.isEmpty && last.all Char.isDigit ||
      (last.take 2 == ['0', 'x'] || last.take 2 == ['0', 'X']) && (ipv4Number? last).isSome

def dotted (n : Nat) : String :=
  ".".intercalate ([n >>> 24, (n >>> 16) % 256, (n >>> 8) % 256, n % 256].map toString)

/-- Each number before the last stands for one byte, the last for all bytes left. -/
def ipv4? (cs : List Char) : Option String := do
  let pieces := labels cs
  if pieces.length > 4 then none
  else
    let numbers ← pieces.mapM ipv4Number?
    let last ← numbers.getLast?
    let leading := numbers.dropLast
    if leading.any (255 < ·) || 1 <<< (8 * (4 - leading.length)) ≤ last then none
    else
      some (dotted (leading.zipIdx.foldl (fun sum (n, i) => sum + n <<< (8 * (3 - i))) last))

/-- Up to four hexadecimal digits. -/
def ipv6Group? (cs : List Char) : Option Nat :=
  if cs.isEmpty || cs.length > 4 then none else hexNumber? cs

/-- A decimal number of one byte, without leading zeros. -/
def byte? (cs : List Char) : Option Nat :=
  if cs.isEmpty || !cs.all Char.isDigit || cs.length > 1 && cs.head? == some '0' then none
  else
    let n := Decimal.value cs
    if n ≤ 255 then some n else none

/-- Groups with colons between them. -/
def ipv6Groups? (cs : List Char) : Option (List Nat) :=
  if cs.isEmpty then some [] else (Cut.pieces (· == ':') cs).mapM ipv6Group?

/-- Groups the last two of which may be written as an IPv4 address. -/
def lastIpv6Groups? (cs : List Char) : Option (List Nat) :=
  let pieces := Cut.pieces (· == ':') cs
  match Cut.pieces (· == '.') (pieces.getLast?.getD []) with
  | [a, b, c, d] => do
    let front ← pieces.dropLast.mapM ipv6Group?
    return front ++ [256 * (← byte? a) + (← byte? b), 256 * (← byte? c) + (← byte? d)]
  | _ => ipv6Groups? cs

/-- The place and length of the first longest run of zeros. -/
def longestZeros (groups : List Nat) : Nat × Nat :=
  let runs := groups.zipIdx.map fun (_, i) => (i, ((groups.drop i).takeWhile (· == 0)).length)
  runs.foldl (fun best run => if best.2 < run.2 then run else best) (0, 0)

def ipv6Text (groups : List Nat) : String :=
  let (start, length) := longestZeros groups
  let join (gs : List Nat) : String := ":".intercalate (gs.map hexDigits)
  if length < 2 then join groups
  else join (groups.take start) ++ "::" ++ join (groups.drop (start + length))

/-- Cuts at the first `::`. -/
def cutAtGap : List Char → Option (List Char × List Char)
  | ':' :: ':' :: rest => some ([], rest)
  | [] => none
  | c :: rest => (cutAtGap rest).map fun (before, after) => (c :: before, after)

/-- Eight groups, or fewer with one `::` in place of the missing ones. -/
def ipv6? (cs : List Char) : Option String :=
  match cutAtGap cs with
  | none => do
    let groups ← lastIpv6Groups? cs
    if groups.length = 8 then some (ipv6Text groups) else none
  | some (before, after) => do
    let front ← ipv6Groups? before
    let back ← lastIpv6Groups? after
    let missing := 8 - (front.length + back.length)
    if missing = 0 then none
    else some (ipv6Text (front ++ List.replicate missing 0 ++ back))

def ipv6Host (bracketed : List Char) : Except AddressFault String :=
  match bracketed.reverse with
  | ']' :: inside =>
    match ipv6? inside.reverse with
    | some text => .ok ("[" ++ text ++ "]")
    | none => .error .invalidIpv6
  | _ => .error .invalidIpv6

def forbiddenInHost (c : Char) : Bool :=
  ['\x00', '\t', '\n', '\r', ' ', '#', '/', ':', '<', '>', '?', '@', '[', '\\', ']', '^',
    '|'].contains c

def forbiddenInName (c : Char) : Bool :=
  c.toNat ≤ 0x20 || c.toNat == 0x7F || c == '%' || forbiddenInHost c

/-- The host of a scheme whose addresses always have one. -/
def hostOfName : List Char → Except AddressFault String
  | '[' :: rest => ipv6Host rest
  | cs =>
    match (Bytes.toString? (Percent.decodeBytes cs)).bind fun s => Domain.toAscii? s.toList with
    | none => .error .invalidName
    | some name =>
      if name.any forbiddenInName then .error .invalidName
      else if name.isEmpty then .error .emptyHost
      else if endsInNumber name then
        match ipv4? name with
        | some text => .ok text
        | none => .error .invalidIpv4
      else .ok (String.ofList name)

/-- The host of any other scheme, which is kept as written. -/
def hostOfText : List Char → Except AddressFault String
  | '[' :: rest => ipv6Host rest
  | cs =>
    if cs.any forbiddenInHost then .error .invalidHostCharacter
    else .ok (code (fun _ => false) cs)

end MarketData.Address
