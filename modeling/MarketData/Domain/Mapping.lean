import MarketData.Domain.ExpansionTable
import MarketData.Domain.ReplacementTable
import MarketData.Domain.StatusTable
import MarketData.Text.CodePoints

/-! What becomes of a character that is written in a domain name: it stays, goes, gives way to
others that look or sound the same, or makes the name unusable. -/

namespace MarketData.Domain

/-- The image of a code point in a block from `start` on. -/
def blockImage? (start : Nat) (images : List Nat) (n : Nat) : Option Nat :=
  if start ≤ n then images[n - start]? else none

/-- The one code point that stands for another one. -/
def replacement (n : Nat) : Nat :=
  let image :=
    CodePoints.image? n lowReplacements <|> CodePoints.image? n middleReplacements <|>
      CodePoints.image? n highReplacements <|> blockImage? 0x2f00 radicals n <|>
      blockImage? 0xf900 ideographs n <|> blockImage? 0x2f800 moreIdeographs n
  image.getD n

def expansion? (n : Nat) : Option (List Nat) :=
  lowExpansions.lookup n <|> middleExpansions.lookup n <|> highExpansions.lookup n

/-- The characters that stand for a character, unless no name may hold it. -/
def mapChar (c : Char) : Option (List Char) :=
  let n := c.toNat
  if n < 0x80 then some [c.toLower]
  else if CodePoints.inRanges n refused then none
  else if CodePoints.inRanges n ignored then some []
  else some (((expansion? n).getD [replacement n]).map Char.ofNat)

/-- Names may hold the character, and nothing else stands for it. -/
def isKept (c : Char) : Bool := mapChar c == some [c]

end MarketData.Domain
