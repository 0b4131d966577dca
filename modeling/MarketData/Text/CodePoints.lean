/-! Sets of code points and maps between them, as tables of ranges. -/

namespace MarketData.CodePoints

/-- A range holds both of its ends. -/
def inRanges (n : Nat) (ranges : List (Nat × Nat)) : Bool :=
  ranges.any fun range => range.1 ≤ n && n ≤ range.2

/-- What a code point goes to by runs `(first, last, step, image)`: from `first` to `last` in steps
of `step`, the code points go to those from `image` on, in the same steps. -/
def image? (n : Nat) : List (Nat × Nat × Nat × Nat) → Option Nat
  | [] => none
  | (first, last, step, image) :: rest =>
    if first ≤ n ∧ n ≤ last ∧ (n - first) % step = 0 then some (image + (n - first))
    else image? n rest

end MarketData.CodePoints
