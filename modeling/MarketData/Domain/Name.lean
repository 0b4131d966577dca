import MarketData.Domain.Composition
import MarketData.Domain.Direction
import MarketData.Domain.Joining
import MarketData.Domain.Mapping
import MarketData.Domain.Punycode
import MarketData.Text.Cut

/-! Domain names. A name is made of labels with dots between them. It may be written with any
letters, and has a form in ASCII, in which a label with other characters is Punycode after
`xn--`. -/

namespace MarketData.Domain

/-- A label as it is read, and its form in ASCII. -/
structure Label where
  text : List Char
  ascii : List Char
deriving DecidableEq, Repr

namespace Label

def isAscii (cs : List Char) : Bool := cs.all fun c => c.toNat < 0x80

def isMark (c : Char) : Bool :=
  CodePoints.inRanges c.toNat nonspacingMarks || CodePoints.inRanges c.toNat spacingMarks

/-- A label with characters outside ASCII is not longer than this. -/
def longestText : Nat := 1000

/-- Longer labels are not decoded. -/
def longestCode : Nat := 2000

/-- A label with characters outside ASCII does not begin with a mark. -/
def isFit (text : List Char) : Bool :=
  text.length ≤ longestText && !text.head?.any isMark && joinersFit [] text

/-- A label that is not in Punycode, in composed form. -/
def ofText? (cs : List Char) : Option Label :=
  if isAscii cs then some ⟨cs, cs⟩
  else if isFit cs then some ⟨cs, "xn--".toList ++ Punycode.encode cs⟩
  else none

/-- A label in Punycode stands for text that is composed, and that nothing else stands for. -/
def ofCode? (code : List Char) : Option Label :=
  if longestCode < code.length then none
  else
    match Punycode.decode? code with
    | none => none
    | some text =>
      if !isAscii text && text.all isKept && composed text == text && isFit text then
        some ⟨text, "xn--".toList ++ code⟩
      else none

def read? : List Char → Option Label
  | 'x' :: 'n' :: '-' :: '-' :: code => ofCode? code
  | cs => ofText? cs

def directions (label : Label) : List Direction := label.text.map Direction.of

end Label

/-- The labels of a name, if it can be a name. -/
def labels? (cs : List Char) : Option (List Label) := do
  let mapped ← cs.mapM mapChar
  let labels ← (Cut.pieces (· == '.') (composed mapped.flatten)).mapM Label.read?
  let directions := labels.map Label.directions
  if directions.any (·.any Direction.turns) && !directions.all Direction.isUniform then none
  else some labels

/-- The form of a name in ASCII. -/
def toAscii? (cs : List Char) : Option (List Char) :=
  (labels? cs).map fun labels => ['.'].intercalate (labels.map (·.ascii))

end MarketData.Domain
