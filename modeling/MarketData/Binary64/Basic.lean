/-! Binary floating-point numbers of 64 bits, as sign, mantissa and exponent. Every operation is the
exact one followed by `ofRatio`, which rounds a quotient to the nearest number and a tie to the even
mantissa. -/

namespace MarketData

/-- `finite s m e` is `m * 2 ^ e`, negated if `s`. Numbers made here have `m < 2 ^ 53` and
`-1074 ≤ e`, with `2 ^ 52 ≤ m` unless `e` is lowest. -/
inductive Binary64
  | nan
  | infinite (negative : Bool)
  | finite (negative : Bool) (mantissa : Nat) (exponent : Int)
deriving DecidableEq, Repr

namespace Binary64

def lowestExponent : Int := -1074

def highestExponent : Int := 971

def zero (negative : Bool) : Binary64 := .finite negative 0 lowestExponent

/-- The nearest whole number to `num / den`, a tie going to the even one. -/
def roundHalfEven (num den : Nat) : Nat :=
  let q := num / den
  let r := num % den
  if 2 * r < den then q else if den < 2 * r then q + 1 else q + q % 2

/-- A power of ten. -/
def tens (n : Nat) : Nat := Nat.pow 10 n

/-- The smallest mantissa of full length. -/
def fullMantissa : Nat := 1 <<< 52

/-- The largest `k` with `2 ^ k ≤ num / den`. -/
def floorLog2 (num den : Nat) : Int :=
  let k : Int := num.log2 - den.log2
  if num <<< (-k).toNat < den <<< k.toNat then k - 1 else k

/-- The number nearest to `num / den`. -/
def ofRatio (negative : Bool) (num den : Nat) : Binary64 :=
  if num = 0 then zero negative
  else
    let e := max (floorLog2 num den - 52) lowestExponent
    let m := roundHalfEven (num <<< (-e).toNat) (den <<< e.toNat)
    let (m, e) := if m = 2 * fullMantissa then (fullMantissa, e + 1) else (m, e)
    if highestExponent < e then .infinite negative else .finite negative m e

def ofNat (n : Nat) : Binary64 := ofRatio false n 1

/-- The number nearest to `digits * 10 ^ power`. -/
def ofDecimal (negative : Bool) (digits : Nat) (power : Int) : Binary64 :=
  let size := (Nat.toDigits 10 digits).length + power
  if digits = 0 ∨ size < -330 then zero negative
  else if 310 < size then .infinite negative
  else ofRatio negative (digits * tens power.toNat) (tens (-power).toNat)

def isInfinite : Binary64 → Bool
  | .infinite _ => true
  | _ => false

def isZero : Binary64 → Bool
  | .finite _ 0 _ => true
  | _ => false

def neg : Binary64 → Binary64
  | .nan => .nan
  | .infinite s => .infinite !s
  | .finite s m e => .finite (!s) m e

def mul : Binary64 → Binary64 → Binary64
  | .finite s m e, .finite t n k =>
    ofRatio (s != t) ((m * n) <<< (e + k).toNat) (1 <<< (-(e + k)).toNat)
  | .infinite s, .infinite t => .infinite (s != t)
  | .infinite s, .finite t n _ | .finite t n _, .infinite s =>
    if n = 0 then .nan else .infinite (s != t)
  | _, _ => .nan

def div : Binary64 → Binary64 → Binary64
  | .finite s m e, .finite t n k =>
    if n = 0 then if m = 0 then .nan else .infinite (s != t)
    else ofRatio (s != t) (m <<< (e - k).toNat) (n <<< (k - e).toNat)
  | .infinite s, .finite t _ _ => .infinite (s != t)
  | .finite s _ _, .infinite t => zero (s != t)
  | _, _ => .nan

end Binary64

end MarketData
