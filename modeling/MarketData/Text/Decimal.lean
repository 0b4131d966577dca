/-! Decimal text of whole numbers: the value of a run of digits, and reading a number that has to
lie in a given range. -/

namespace MarketData.Decimal

def digitValue (c : Char) : Nat := c.toNat - 48

/-- The number that a run of digits writes. -/
def value (digits : List Char) : Nat :=
  digits.foldl (fun n c => 10 * n + digitValue c) 0

/-- Why a text is no number of the asked range. -/
inductive Fault
  | empty
  | invalidDigit
  | tooLarge
  | tooSmall
deriving DecidableEq, Repr

def Fault.message : Fault → String
  | .empty => "cannot parse integer from empty string"
  | .invalidDigit => "invalid digit found in string"
  | .tooLarge => "number too large to fit in target type"
  | .tooSmall => "number too small to fit in target type"

/-- Extends `n` digit by digit; the first digit that leaves the range up to `limit` ends the
reading, whatever follows it. -/
def readDigits (limit : Nat) (overflow : Fault) (n : Nat) : List Char → Except Fault Nat
  | [] => .ok n
  | c :: rest =>
    if !c.isDigit then .error .invalidDigit
    else
      let next := 10 * n + digitValue c
      if limit < next then .error overflow else readDigits limit overflow next rest

/-- Digits after an optional sign. A minus sign is a digit like any other, and a wrong one, where
the range has no negative numbers. -/
def read (lowest : Int) (highest : Nat) (text : String) : Except Fault Int :=
  let digits (cs : List Char) (limit : Nat) (overflow : Fault) : Except Fault Nat :=
    if cs.isEmpty then .error .invalidDigit else readDigits limit overflow 0 cs
  match text.toList with
  | [] => .error .empty
  | '+' :: rest => (digits rest highest .tooLarge).map Int.ofNat
  | '-' :: rest =>
    if lowest < 0 then (digits rest (-lowest).toNat .tooSmall).map fun n => -Int.ofNat n
    else .error .invalidDigit
  | cs => (digits cs highest .tooLarge).map Int.ofNat

end MarketData.Decimal
