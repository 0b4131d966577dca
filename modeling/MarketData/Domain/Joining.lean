import MarketData.Domain.Composition
import MarketData.Domain.PropertyTable
import MarketData.Text.CodePoints

/-! The two characters that only change how their neighbours are joined. A name may hold one where
it makes a difference that is seen. -/

namespace MarketData.Domain

def nonJoiner : Char := Char.ofNat 0x200c

def joiner : Char := Char.ofNat 0x200d

/-- The class of the mark that takes away the vowel of a consonant. -/
def viramaClass : Nat := 9

/-- A sign that letters join through, though it is no mark. -/
def adlamNasalization : Nat := 0x1e94b

def isTransparent (c : Char) : Bool :=
  CodePoints.inRanges c.toNat nonspacingMarks || c.toNat == adlamNasalization

/-- The first of some characters that letters do not join through is one of `letters`. -/
def joins (letters : List (Nat × Nat)) (cs : List Char) : Bool :=
  (cs.dropWhile isTransparent).head?.any fun c => CodePoints.inRanges c.toNat letters

/-- Either stands after a virama; the one that separates also stands between letters that would
join. `before` is what comes before, the last character first. -/
def joinersFit (before : List Char) : List Char → Bool
  | [] => true
  | c :: rest =>
    let afterVirama := before.head?.any fun d => combiningClass d == viramaClass
    let fits :=
      c != nonJoiner && c != joiner || afterVirama ||
        c == nonJoiner && joins joiningAfter before && joins joiningBefore rest
    fits && joinersFit (c :: before) rest

end MarketData.Domain
