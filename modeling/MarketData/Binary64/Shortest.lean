import MarketData.Binary64.Basic

/-! The shortest decimal that rounds to a given binary number, and of those the nearest. Which of
two equally near ones is taken is the caller's choice. -/

namespace MarketData.Binary64

/-- What becomes of a number halfway between two decimals. -/
inductive Tie
  | toEven
  | up
deriving DecidableEq, Repr

/-- `digits * 10 ^ power`. -/
structure DecimalForm where
  digits : Nat
  power : Int
deriving DecidableEq, Repr

/-- `a * 10 ^ p` against `b * 2 ^ k`. -/
def compareScaled (a : Nat) (p : Int) (b : Nat) (k : Int) : Ordering :=
  compare ((a * tens p.toNat) <<< (-k).toNat) ((b * tens (-p).toNat) <<< k.toNat)

/-- The largest whole number not above `b * 2 ^ k / 10 ^ p`. -/
def floorScaled (b : Nat) (k p : Int) : Nat :=
  (b * tens (-p).toNat) <<< k.toNat / (tens p.toNat <<< (-k).toNat)

/-- The largest `p` with `10 ^ p ≤ m * 2 ^ e`, for a positive `m`. -/
def floorLog10 (m : Nat) (e : Int) : Int :=
  let p : Int := (m.log2 + e) * 30103 / 100000
  if compareScaled 1 (p + 1) m e != .gt then p + 1
  else if compareScaled 1 p m e != .gt then p
  else p - 1

/-- The reals that round to `m * 2 ^ e`, in units of `2 ^ (e - 2)`: the ends of the interval, and
whether they belong to it. Below a power of two the gap to the next number is half as wide. -/
def roundingInterval (m : Nat) (e : Int) : Nat × Nat × Bool :=
  let low := if m = fullMantissa ∧ lowestExponent < e then 4 * m - 1 else 4 * m - 2
  (low, 4 * m + 2, m % 2 == 0)

/-- The decimal with power `p` nearest to `m * 2 ^ e` among those that round to it. -/
def nearestWithPower? (tie : Tie) (m : Nat) (e p : Int) : Option Nat :=
  let (low, high, closed) := roundingInterval m e
  let fits (d : Nat) : Bool :=
    let above := compareScaled d p low (e - 2)
    let below := compareScaled d p high (e - 2)
    (above == .gt || closed && above == .eq) && (below == .lt || closed && below == .eq)
  let d := floorScaled m e p
  match fits d, fits (d + 1) with
  | false, false => none
  | true, false => some d
  | false, true => some (d + 1)
  | true, true =>
    match compareScaled (2 * d + 1) p (2 * m) e with
    | .gt => some d
    | .lt => some (d + 1)
    | .eq =>
      match tie with
      | .up => some (d + 1)
      | .toEven => some (d + d % 2)

/-- Drops trailing zeros into the power. -/
def DecimalForm.normalize (fuel : Nat) (d : DecimalForm) : DecimalForm :=
  match fuel with
  | 0 => d
  | fuel + 1 =>
    if d.digits != 0 && d.digits % 10 == 0 then
      DecimalForm.normalize fuel ⟨d.digits / 10, d.power + 1⟩
    else d

/-- Tries one digit, then two, up to the seventeen that always suffice. -/
def shortest (tie : Tie) (m : Nat) (e : Int) : DecimalForm :=
  let top := floorLog10 m e
  let found := (List.range 17).findSome? fun (n : Nat) =>
    (nearestWithPower? tie m e (top - n)).map fun digits => DecimalForm.mk digits (top - n)
  DecimalForm.normalize 18 (found.getD ⟨0, 0⟩)

end MarketData.Binary64
