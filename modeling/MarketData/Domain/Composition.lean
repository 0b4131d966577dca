import MarketData.Domain.CompositionTable

/-! The composed form of text. A character and the marks on it can be written in several ways; the
composed form puts the marks in a fixed order and joins what one character stands for. -/

namespace MarketData.Domain

/-- The class of a combining mark, zero for any other character. -/
def combiningClass (c : Char) : Nat :=
  let range? := combiningClasses.find? fun (first, last, _) => first ≤ c.toNat && c.toNat ≤ last
  range?.elim 0 (·.2.2)

/-! Syllables of Hangul are numbered by their lead, vowel and tail; the tail may be absent. -/

def firstLead : Nat := 0x1100

def firstVowel : Nat := 0x1161

/-- The tail before the first one stands for its absence. -/
def noTail : Nat := 0x11a7

def firstSyllable : Nat := 0xac00

def leadCount : Nat := 19

def vowelCount : Nat := 21

def tailCount : Nat := 28

def syllableCount : Nat := leadCount * vowelCount * tailCount

/-- A syllable as a syllable without its tail and the tail, or as lead and vowel. -/
def splitSyllable? (n : Nat) : Option (Nat × Nat) :=
  if n < firstSyllable ∨ firstSyllable + syllableCount ≤ n then none
  else
    let i := n - firstSyllable
    let tail := i % tailCount
    if tail ≠ 0 then some (n - tail, noTail + tail)
    else
      let untailed := i / tailCount
      some (firstLead + untailed / vowelCount, firstVowel + untailed % vowelCount)

def joinSyllable? (a b : Nat) : Option Nat :=
  if firstLead ≤ a ∧ a < firstLead + leadCount ∧ firstVowel ≤ b ∧ b < firstVowel + vowelCount then
    some (firstSyllable + ((a - firstLead) * vowelCount + (b - firstVowel)) * tailCount)
  else if firstSyllable ≤ a ∧ a < firstSyllable + syllableCount ∧
      (a - firstSyllable) % tailCount = 0 ∧ noTail < b ∧ b < noTail + tailCount then
    some (a + (b - noTail))
  else none

/-- The two characters that a character is composed of. -/
def split? (c : Char) : Option (Char × Char) :=
  let parts := splitSyllable? c.toNat <|> composites.lookup c.toNat
  parts.map fun (first, second) => (Char.ofNat first, Char.ofNat second)

/-- The character that two characters compose. -/
def join? (a b : Char) : Option Char :=
  let composite :=
    joinSyllable? a.toNat b.toNat <|>
      (composites.find? fun (_, first, second) => first == a.toNat && second == b.toNat).map (·.1)
  composite.map Char.ofNat

/-- Takes apart a character, and its first part again, up to `depth` times. -/
def decomposeTo : (depth : Nat) → Char → List Char
  | 0, c => [c]
  | depth + 1, c =>
    match split? c with
    | some (first, second) => decomposeTo depth first ++ [second]
    | none => [c]

/-- The first part of a composite may be one, but its first part is none. -/
def decompose (c : Char) : List Char := decomposeTo 2 c

/-- Puts a mark before the marks at the head that are not of a smaller class. -/
def putMark (c : Char) : List Char → List Char
  | [] => [c]
  | d :: rest =>
    if combiningClass d ≠ 0 ∧ combiningClass d < combiningClass c then d :: putMark c rest
    else c :: d :: rest

/-- Orders the marks on each character by their classes; equal classes stay in order. -/
def orderMarks (cs : List Char) : List Char := cs.foldr putMark []

/-- Joins what follows to `starter`. `marks` are those on it that do not join, the last one first;
they block a mark whose class is not greater. -/
def joinTo (starter : Char) (marks : List Char) : List Char → List Char
  | [] => starter :: marks.reverse
  | c :: rest =>
    let isFree := marks.head?.all fun m => combiningClass m < combiningClass c
    match if isFree then join? starter c else none with
    | some composite => joinTo composite marks rest
    | none =>
      if combiningClass c = 0 then starter :: marks.reverse ++ joinTo c [] rest
      else joinTo starter (c :: marks) rest

/-- Joins characters in order, apart from marks at the start, which stand on nothing. -/
def joinAll : List Char → List Char
  | [] => []
  | c :: rest => if combiningClass c = 0 then joinTo c [] rest else c :: joinAll rest

/-- The composed form. -/
def composed (cs : List Char) : List Char := joinAll (orderMarks (cs.flatMap decompose))

end MarketData.Domain
