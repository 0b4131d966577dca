import MarketData.Distinct
import MarketData.SortedMap

/-! The order in which a hash table hands out what it holds. No key says what it is, and two tables
with the same keys need not agree on it. So a map has no order of its own here, and whatever goes
through one is given an order from outside. -/

namespace MarketData

/-- A way to go through keys: all of them, in any order. -/
structure HashOrder (κ : Type) where
  arrange : List κ → List κ
  perm : ∀ keys, (arrange keys).Perm keys

namespace HashOrder

variable {κ β : Type}

/-- In the order in which the keys are given. -/
def given : HashOrder κ := ⟨id, fun _ => .refl _⟩

/-- The same set, traversed in this order. -/
def members (order : HashOrder κ) (s : Distinct κ) : Distinct κ :=
  ⟨order.arrange s.items, (order.perm s.items).nodup_iff.mpr s.nodup⟩

/-- The entries of a map, in the order of their keys. -/
def handOut [Ord κ] (order : HashOrder κ) (entries : List (κ × β)) : List (κ × β) :=
  (order.arrange (entries.map (·.1))).filterMap fun k => (Entries.find? k entries).map (k, ·)

end HashOrder

end MarketData
