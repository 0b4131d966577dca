/-! Finite sets given by the order in which they are traversed: lists in which nothing occurs
twice. -/

namespace MarketData

structure Distinct (α : Type) where
  items : List α
  nodup : items.Nodup

namespace Distinct

variable {α : Type}

def empty : Distinct α := ⟨[], List.nodup_nil⟩

def size (s : Distinct α) : Nat := s.items.length

def isEmpty (s : Distinct α) : Bool := s.items.isEmpty

def singleton (a : α) : Distinct α := ⟨[a], by simp⟩

variable [DecidableEq α]

def contains (s : Distinct α) (a : α) : Bool := s.items.contains a

/-- A new element comes last. -/
def insert (s : Distinct α) (a : α) : Distinct α :=
  if h : a ∈ s.items then s
  else ⟨s.items ++ [a], by simp_all [List.nodup_append, s.nodup]; grind⟩

/-- The first of equal elements stays. -/
def ofList (items : List α) : Distinct α := items.foldl insert empty

theorem mem_insert {s : Distinct α} {a b : α} :
    b ∈ (s.insert a).items ↔ b = a ∨ b ∈ s.items := by
  unfold insert
  split <;> grind

theorem mem_ofList {items : List α} {a : α} : a ∈ (ofList items).items ↔ a ∈ items := by
  suffices h : ∀ s : Distinct α, a ∈ (items.foldl insert s).items ↔ a ∈ s.items ∨ a ∈ items by
    simpa [ofList, empty] using h empty
  induction items with
  | nil => simp
  | cons head rest ih =>
    intro s
    rw [List.foldl_cons, ih, mem_insert]
    grind

end Distinct

end MarketData
