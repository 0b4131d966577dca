/-! Cutting text into pieces. -/

namespace MarketData.Cut

/-- Cuts off the part that `stops` ends; what stopped it stays with the rest. -/
def before (stops : Char → Bool) (cs : List Char) : List Char × List Char :=
  (cs.takeWhile (!stops ·), cs.dropWhile (!stops ·))

/-- Splits at every character that `isBreak` names; there is always one piece more than breaks. -/
def pieces (isBreak : Char → Bool) : List Char → List (List Char)
  | [] => [[]]
  | c :: rest =>
    match pieces isBreak rest with
    | [] => [[c]]
    | first :: more => if isBreak c then [] :: first :: more else (c :: first) :: more

end MarketData.Cut
