import MarketData.Domain.PropertyTable
import MarketData.Text.CodePoints

/-! The direction of writing. In a name with letters or digits written from right to left, every
label has to be of one direction, so that no two names look the same. -/

namespace MarketData.Domain

inductive Direction
  | left
  | right
  /-- Arabic digits, which stand in text written from right to left. -/
  | arabicDigit
  | europeanDigit
  /-- Marks take the direction of what they stand on. -/
  | mark
  | neutral
deriving DecidableEq, Repr

namespace Direction

/-- Marks that are written as letters are. -/
def letterMarks : List Nat := [0xcbf, 0xcc6, 0x11a07, 0x11a08, 0x11c3f]

def of (c : Char) : Direction :=
  let n := c.toNat
  if CodePoints.inRanges n rightToLeft then .right
  else if CodePoints.inRanges n arabicDigits then .arabicDigit
  else if CodePoints.inRanges n europeanDigits then .europeanDigit
  else if CodePoints.inRanges n neutrals then .neutral
  else if CodePoints.inRanges n nonspacingMarks && !letterMarks.contains n then .mark
  else .left

/-- Text with such a character is not read from left to right alone. -/
def turns : Direction → Bool
  | .right | .arabicDigit => true
  | _ => false

/-- A label of one direction begins with a letter, ends with a letter or digit, marks on it apart,
and has no letters or digits that go with the other direction. -/
def isUniform (ds : List Direction) : Bool :=
  let last? := (ds.reverse.dropWhile (· == .mark)).head?
  match ds with
  | [] => true
  | .left :: _ =>
    ds.all (!turns ·) && last?.any fun d => d == .left || d == .europeanDigit
  | .right :: _ =>
    !ds.contains .left && !(ds.contains .arabicDigit && ds.contains .europeanDigit) &&
      last?.any fun d => d != .neutral
  | _ => false

end Direction

end MarketData.Domain
