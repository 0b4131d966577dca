import MarketData.Json.Value
import MarketData.Json.Error

/-! Reading the numbers of a JSON text. A whole number that fits 64 bits is exact. Any other is the
digits that fit 64 bits, read exactly, and scaled by a power of ten in binary arithmetic. -/

namespace MarketData.Json

/-- Why reading stopped, and how many bytes were unread at the place to report. -/
structure Halt where
  problem : Problem
  unread : Nat
deriving DecidableEq, Repr

abbrev Reader (α : Type) := Bytes → Except Halt (α × Bytes)

/-- Reports the place before `rest`. -/
def halt {α : Type} (problem : Problem) (rest : Bytes) : Except Halt α :=
  .error ⟨problem, rest.length⟩

/-- Reports the place after the first byte of `rest`, or the end of the text. -/
def haltOn {α : Type} (problem : Problem) (rest : Bytes) : Except Halt α :=
  .error ⟨problem, rest.length - 1⟩

def byte (c : Char) : UInt8 := UInt8.ofNat c.toNat

def isDigit (b : UInt8) : Bool := byte '0' ≤ b && b ≤ byte '9'

def isExponentMark (b : UInt8) : Bool := b == byte 'e' || b == byte 'E'

namespace Number

def largest : Nat := UInt64.size - 1

def largestPower : Nat := UInt32.size / 2 - 1

def digitValue (b : UInt8) : Nat := b.toNat - 48

/-- Appends digits to `n` while the result fits 64 bits; the digits left over come second. -/
def gather (n : Nat) : Bytes → Nat × Bytes
  | [] => (n, [])
  | d :: rest =>
    let next := 10 * n + digitValue d
    if largest < next then (n, d :: rest) else gather next rest

/-- A whole number; negative zero and what no 64 bits hold become binary. -/
def ofWhole (negative : Bool) (n : Nat) : Number :=
  if !negative then .integer n
  else if n = 0 ∨ UInt64.size / 2 < n then .double (Binary64.ofNat n).neg
  else .integer (-n)

def powerOfTen (n : Nat) : Binary64 := Binary64.ofNat (Binary64.tens n)

def stepPower : Nat := 308

/-- Divides by the largest power of ten until the rest of the power can be taken in one step. -/
def reduce : Nat → Binary64 → Nat → Binary64 × Nat
  | 0, x, power => (x, power)
  | fuel + 1, x, power =>
    if power ≤ stepPower || x.isZero then (x, power)
    else reduce fuel (x.div (powerOfTen stepPower)) (power - stepPower)

/-- `digits * 10 ^ power`, unless that is beyond the largest number. -/
def scale? (digits : Nat) (power : Int) : Option Binary64 :=
  let x := Binary64.ofNat digits
  if x.isZero then some x
  else if 0 ≤ power then
    if power ≤ stepPower then
      let y := x.mul (powerOfTen power.toNat)
      if y.isInfinite then none else some y
    else none
  else
    let (y, left) := reduce (power.natAbs / stepPower) x power.natAbs
    if y.isZero then some y else some (y.div (powerOfTen left))

def scaled (negative : Bool) (digits : Nat) (power : Int) (rest : Bytes) :
    Except Halt (Number × Bytes) :=
  match scale? digits power with
  | some x => .ok (.double (if negative then x.neg else x), rest)
  | none => halt .numberOutOfRange rest

/-- Reads a power of ten up to `largestPower`; `none` if a digit leads beyond it. -/
def gatherPower (n : Nat) : Bytes → Option Nat × Bytes
  | [] => (some n, [])
  | d :: rest =>
    if isDigit d then
      let next := 10 * n + digitValue d
      if largestPower < next then (none, rest) else gatherPower next rest
    else (some n, d :: rest)

/-- What follows the exponent mark. -/
def exponent (negative : Bool) (digits : Nat) (power : Int) (rest : Bytes) :
    Except Halt (Number × Bytes) :=
  let (down, rest) :=
    match rest with
    | b :: r =>
      if b == byte '+' then (false, r) else if b == byte '-' then (true, r) else (false, rest)
    | [] => (false, [])
  match rest with
  | [] => halt .endInValue []
  | d :: r =>
    if !isDigit d then halt .invalidNumber r
    else
      match gatherPower 0 rest with
      | (some n, tail) => scaled negative digits (if down then power - n else power + n) tail
      | (none, tail) =>
        if digits != 0 && !down then halt .numberOutOfRange tail
        else .ok (.double (Binary64.zero negative), tail.dropWhile isDigit)

/-- What follows the point. -/
def fraction (negative : Bool) (digits : Nat) (power : Int) (rest : Bytes) :
    Except Halt (Number × Bytes) :=
  match rest.takeWhile isDigit, rest.dropWhile isDigit with
  | [], [] => haltOn .endInValue []
  | [], tail => haltOn .invalidNumber tail
  | written, tail =>
    let (digits, left) := gather digits written
    let power := power - (written.length - left.length : Nat)
    match tail with
    | b :: r =>
      if isExponentMark b then exponent negative digits power r
      else scaled negative digits power tail
    | [] => scaled negative digits power []

/-- What follows the digits before the point, `dropped` of which did not fit. -/
def afterWhole (negative : Bool) (digits dropped : Nat) (rest : Bytes) :
    Except Halt (Number × Bytes) :=
  let plain : Except Halt (Number × Bytes) :=
    if dropped = 0 then .ok (ofWhole negative digits, rest)
    else scaled negative digits dropped rest
  match rest with
  | [] => plain
  | b :: r =>
    if b == byte '.' then fraction negative digits dropped r
    else if isExponentMark b then exponent negative digits dropped r
    else plain

/-- A number after its sign. A leading zero stands alone. -/
def read (negative : Bool) : Reader Number
  | [] => halt .endInValue []
  | b :: rest =>
    if b == byte '0' then
      match rest with
      | d :: _ => if isDigit d then haltOn .invalidNumber rest else afterWhole negative 0 0 rest
      | [] => afterWhole negative 0 0 []
    else if isDigit b then
      let (digits, dropped) := gather 0 ((b :: rest).takeWhile isDigit)
      afterWhole negative digits dropped.length (rest.dropWhile isDigit)
    else halt .invalidNumber rest

end Number

end MarketData.Json
