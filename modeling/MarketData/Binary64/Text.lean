import MarketData.Binary64.Shortest
import MarketData.Text.Decimal

/-! Decimal text of binary numbers: the positional and the scientific form of a shortest decimal,
and the reader of the usual written forms. -/

namespace MarketData.Binary64

namespace DecimalForm

def digitChars (d : DecimalForm) : List Char := Nat.toDigits 10 d.digits

/-- The power of ten of the first digit. -/
def leadingPower (d : DecimalForm) : Int := d.digitChars.length - 1 + d.power

/-- Digits with a point where it falls and zeros up to it; a whole number ends in `.0` if
`keepPoint`. -/
def positional (keepPoint : Bool) (d : DecimalForm) : String :=
  let digits := d.digitChars
  let whole := d.leadingPower + 1
  let zeros (n : Int) : List Char := List.replicate n.toNat '0'
  String.ofList <|
    if whole ≤ 0 then ['0', '.'] ++ zeros (-whole) ++ digits
    else if digits.length ≤ whole then
      digits ++ zeros (whole - digits.length) ++ (if keepPoint then ['.', '0'] else [])
    else digits.take whole.toNat ++ ['.'] ++ digits.drop whole.toNat

/-- One digit before the point, and an exponent with its sign. -/
def scientific (d : DecimalForm) : String :=
  let exponent := d.leadingPower
  let tail := d.digitChars.drop 1
  String.ofList (d.digitChars.take 1 ++ (if tail.isEmpty then [] else '.' :: tail)) ++
    (if exponent < 0 then "e-" else "e+") ++ toString exponent.natAbs

end DecimalForm

/-- Digits after an optional sign; `false` stands for plus. -/
def splitSign : List Char → Bool × List Char
  | '-' :: rest => (true, rest)
  | '+' :: rest => (false, rest)
  | cs => (false, cs)

/-- Nothing, or an `e` with a signed run of digits. -/
def readExponent? : List Char → Option Int
  | [] => some 0
  | c :: rest =>
    let (negative, digits) := splitSign rest
    if (c == 'e' || c == 'E') && !digits.isEmpty && digits.all Char.isDigit then
      let n : Int := Decimal.value digits
      some (if negative then -n else n)
    else none

def readUnsigned? (negative : Bool) (cs : List Char) : Option Binary64 :=
  let whole := cs.takeWhile Char.isDigit
  let afterWhole := cs.dropWhile Char.isDigit
  let (fraction, rest) :=
    match afterWhole with
    | '.' :: more => (more.takeWhile Char.isDigit, more.dropWhile Char.isDigit)
    | more => ([], more)
  if whole.isEmpty && fraction.isEmpty then none
  else
    (readExponent? rest).map fun exponent =>
      ofDecimal negative (Decimal.value (whole ++ fraction))
        (exponent - fraction.length)

/-- Digits with an optional point and exponent, `inf`, `infinity` or `nan` in any case, all after an
optional sign. -/
def read? (text : String) : Option Binary64 :=
  let (negative, cs) := splitSign text.toList
  let word := String.ofList (cs.map Char.toLower)
  if word == "nan" then some .nan
  else if word == "inf" || word == "infinity" then some (.infinite negative)
  else readUnsigned? negative cs

end MarketData.Binary64
