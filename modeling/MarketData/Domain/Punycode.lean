/-! Punycode: text of any characters written with those of ASCII. The ASCII characters come first;
after the last hyphen the others follow in ascending order, each as the distance from the one before
it. Distances are numbers of variable length in base 36, whose digits adapt to the distances seen
so far. -/

namespace MarketData.Domain.Punycode

def base : Nat := 36

def smallestThreshold : Nat := 1

def largestThreshold : Nat := 26

/-- Digits are the letters and then the decimal digits. -/
def digitChar (d : Nat) : Char := Char.ofNat (if d < 26 then 97 + d else 22 + d)

def digitValue? (c : Char) : Option Nat :=
  if 'a' ≤ c ∧ c ≤ 'z' then some (c.toNat - 97)
  else if 'A' ≤ c ∧ c ≤ 'Z' then some (c.toNat - 65)
  else if '0' ≤ c ∧ c ≤ '9' then some (c.toNat - 22)
  else none

/-- A digit below the threshold of its place, which counts from one, ends a number. -/
def threshold (place bias : Nat) : Nat :=
  min largestThreshold (max smallestThreshold (base * place - bias))

theorem threshold_pos (place bias : Nat) : 0 < threshold place bias := by
  unfold threshold smallestThreshold largestThreshold
  omega

/-- Scales a distance down; with it comes how much of the bias that makes. -/
def scale (distance bias : Nat) : Nat × Nat :=
  if (base - smallestThreshold) * largestThreshold / 2 < distance then
    scale (distance / (base - smallestThreshold)) (bias + base)
  else (distance, bias)
termination_by distance
decreasing_by
  simp only [base, smallestThreshold, largestThreshold] at *
  omega

def startingBias : Nat := 72

/-- The bias after a distance, where the text has `length` characters with the one it led to. -/
def adapt (distance length : Nat) (isFirst : Bool) : Nat :=
  let distance := if isFirst then distance / 700 else distance / 2
  let (distance, bias) := scale (distance + distance / length) 0
  bias + base * distance / (distance + 38)

/-- The digits of a number from the given place on. -/
def digits (bias place n : Nat) : List Char :=
  let t := threshold place bias
  if n < t then [digitChar n]
  else digitChar (t + (n - t) % (base - t)) :: digits bias (place + 1) ((n - t) / (base - t))
termination_by n
decreasing_by
  have pos := threshold_pos place bias
  have := Nat.div_le_self (n - threshold place bias) (base - threshold place bias)
  omega

/-- How far the text has been written. -/
structure Progress where
  written : List Char
  distance : Nat
  bias : Nat
  count : Nat

/-- Passes a character of the text while those equal to `n` are written. -/
def Progress.pass (basic n : Nat) (p : Progress) (c : Char) : Progress :=
  if c.toNat < n then { p with distance := p.distance + 1 }
  else if c.toNat = n then
    { written := p.written ++ digits p.bias 1 p.distance
      distance := 0
      bias := adapt p.distance (p.count + 1) (p.count == basic)
      count := p.count + 1 }
  else p

/-- Writes the code points `ns`, in ascending order; those below `n` have been passed. -/
def encodeFrom (cs : List Char) (basic : Nat) : (ns : List Nat) → (n : Nat) → Progress → List Char
  | [], _, p => p.written
  | next :: ns, n, p =>
    let p := { p with distance := p.distance + (next - n) * (p.count + 1) }
    let p := cs.foldl (Progress.pass basic next) p
    encodeFrom cs basic ns (next + 1) { p with distance := p.distance + 1 }

def isBasic (c : Char) : Bool := c.toNat < 0x80

def encode (cs : List Char) : List Char :=
  let basic := cs.filter isBasic
  let others := (cs.filter (!isBasic ·)).map Char.toNat
  let ns := (others.mergeSort (· ≤ ·)).eraseDups
  let start := ⟨[], 0, startingBias, basic.length⟩
  basic ++ (if basic.isEmpty then [] else ['-']) ++ encodeFrom cs basic.length ns 0x80 start

/-- Numbers on the way have to stay below this. -/
def limit : Nat := UInt32.size

/-- Adds a number to `sum`, from the given place on with the given weight of a digit there. -/
def number? (bias : Nat) : (place weight sum : Nat) → List Char → Option (Nat × List Char)
  | _, _, _, [] => none
  | place, weight, sum, c :: rest => do
    let d ← digitValue? c
    let sum := sum + d * weight
    let t := threshold place bias
    if limit ≤ sum then none
    else if d < t then some (sum, rest)
    else if limit ≤ weight * (base - t) then none
    else number? bias (place + 1) (weight * (base - t)) sum rest

theorem length_lt_of_number? {bias : Nat} {cs rest : List Char} {place weight sum n : Nat}
    (h : number? bias place weight sum cs = some (n, rest)) : rest.length < cs.length := by
  induction cs generalizing place weight sum with
  | nil => simp [number?] at h
  | cons c cs ih =>
    rw [number?] at h
    cases hd : digitValue? c with
    | none => simp [hd] at h
    | some d =>
      simp only [hd, Option.bind_eq_bind, Option.bind_some] at h
      split at h
      · simp at h
      · split at h
        · simp only [Option.some.injEq, Prod.mk.injEq] at h
          simp [h.2]
        · split at h
          · simp at h
          · exact Nat.lt_succ_of_lt (ih h)

/-- Inserts the characters that the rest of a text stands for into those that are there. `n` is the
code point of the last one, and `i` the place after it. -/
def decodeInto (cs : List Char) (n i bias : Nat) (rest : List Char) : Option (List Char) :=
  if rest.isEmpty then some cs
  else
    match _h : number? bias 1 1 i rest with
    | none => none
    | some (j, next) =>
      let length := cs.length + 1
      let n := n + j / length
      if n.isValidChar then
        decodeInto (cs.insertIdx (j % length) (Char.ofNat n)) n (j % length + 1)
          (adapt (j - i) length (i == 0)) next
      else none
termination_by rest.length
decreasing_by exact length_lt_of_number? (by assumption)

/-- The characters before the last hyphen, if there are any, and what follows it. -/
def cutAtHyphen (cs : List Char) : List Char × List Char :=
  let after := (cs.reverse.takeWhile (· != '-')).reverse
  let before := cs.take (cs.length - after.length - 1)
  if before.isEmpty then ([], cs) else (before, after)

def decode? (cs : List Char) : Option (List Char) :=
  let (basic, rest) := cutAtHyphen cs
  decodeInto basic 0x80 0 startingBias rest

end MarketData.Domain.Punycode
