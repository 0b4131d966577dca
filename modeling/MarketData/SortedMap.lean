/-! Finite maps kept as entries in strictly increasing key order. The order is part of the type, so
a map shows nothing of the insertions that built it, and look-ups are all there is to say about it.

`Entries` holds the operations on plain association lists; a JSON object uses them directly. -/

namespace MarketData

universe u v

variable {κ : Type u} {β : Type v} [Ord κ]

namespace Entries

def find? (k : κ) : List (κ × β) → Option β
  | [] => none
  | (k', v) :: rest => if compare k k' = .eq then some v else find? k rest

/-- Puts `v` under `k`, in place of what was there. -/
def set (k : κ) (v : β) : List (κ × β) → List (κ × β)
  | [] => [(k, v)]
  | (k', v') :: rest =>
    match compare k k' with
    | .lt => (k, v) :: (k', v') :: rest
    | .eq => (k, v) :: rest
    | .gt => (k', v') :: set k v rest

def erase (k : κ) (entries : List (κ × β)) : List (κ × β) :=
  entries.filter fun e => compare k e.1 != .eq

/-- Every key is smaller than the keys after it. -/
def Sorted (entries : List (κ × β)) : Prop :=
  entries.Pairwise fun a b => compare a.1 b.1 = .lt

theorem mem_set_key {k : κ} {v : β} {entries : List (κ × β)} {e : κ × β}
    (h : e ∈ set k v entries) : e = (k, v) ∨ e ∈ entries := by
  induction entries with
  | nil => simpa [set] using h
  | cons head rest ih =>
    obtain ⟨k', v'⟩ := head
    simp only [set] at h
    split at h <;> grind

theorem set_sorted [Std.TransOrd κ] {k : κ} {v : β} {entries : List (κ × β)}
    (h : Sorted entries) : Sorted (set k v entries) := by
  induction entries with
  | nil => simp [set, Sorted]
  | cons head rest ih =>
    obtain ⟨k', v'⟩ := head
    obtain ⟨hhead, hrest⟩ := List.pairwise_cons.mp h
    simp only [set]
    split
    · rename_i hlt
      refine List.pairwise_cons.mpr ⟨fun e he => ?_, h⟩
      rcases List.mem_cons.mp he with rfl | he
      · exact hlt
      · exact Std.TransCmp.lt_trans hlt (hhead e he)
    · rename_i heq
      refine List.pairwise_cons.mpr ⟨fun e he => ?_, hrest⟩
      exact Std.TransCmp.lt_of_eq_of_lt heq (hhead e he)
    · rename_i hgt
      refine List.pairwise_cons.mpr ⟨fun e he => ?_, ih hrest⟩
      rcases mem_set_key he with rfl | he
      · exact Std.OrientedCmp.gt_iff_lt.mp hgt
      · exact hhead e he

section LookUp

variable [Std.LawfulEqOrd κ] [DecidableEq κ]

@[simp] theorem find?_cons (j k : κ) (v : β) (rest : List (κ × β)) :
    find? j ((k, v) :: rest) = if j = k then some v else find? j rest := by
  simp [find?, Std.LawfulEqCmp.compare_eq_iff_eq]

theorem find?_set [Std.TransOrd κ] (k : κ) (v : β) (entries : List (κ × β)) (j : κ) :
    find? j (set k v entries) = if j = k then some v else find? j entries := by
  induction entries with
  | nil => simp [set]
  | cons head rest ih =>
    obtain ⟨k', v'⟩ := head
    simp only [set]
    split <;> rename_i hc
    · simp
    · obtain rfl := Std.LawfulEqCmp.eq_of_compare hc
      by_cases h : j = k <;> simp [h]
    · have hne : k ≠ k' := fun h => by simp [h, Std.ReflCmp.compare_self] at hc
      by_cases h : j = k' <;> simp_all [eq_comm]

theorem find?_erase (k : κ) (entries : List (κ × β)) (j : κ) :
    find? j (erase k entries) = if j = k then none else find? j entries := by
  induction entries with
  | nil => simp [erase, find?]
  | cons head rest ih =>
    obtain ⟨k', v'⟩ := head
    unfold erase at ih ⊢
    by_cases hk : k = k'
    · subst hk
      by_cases h : j = k <;> simp_all [Std.ReflCmp.compare_self]
    · have hc : compare k k' ≠ .eq := fun h => hk (Std.LawfulEqCmp.eq_of_compare h)
      simp only [List.filter_cons, bne_iff_ne, ne_eq, hc, not_false_eq_true, ↓reduceIte,
        find?_cons, ih]
      by_cases h : j = k' <;> by_cases h' : j = k <;> simp_all

theorem find?_eq_none_of_lt {k : κ} {entries : List (κ × β)}
    (h : ∀ e ∈ entries, compare k e.1 = .lt) : find? k entries = none := by
  induction entries with
  | nil => rfl
  | cons head rest ih =>
    obtain ⟨k', v'⟩ := head
    obtain ⟨hhead, hrest⟩ := List.forall_mem_cons.mp h
    have hne : k ≠ k' := fun heq => by simp [heq, Std.ReflCmp.compare_self] at hhead
    rw [find?_cons, if_neg hne, ih hrest]

theorem find?_cons_eq_none_of_lt [Std.TransOrd κ] {j k : κ} {v : β} {rest : List (κ × β)}
    (h : Sorted ((k, v) :: rest)) (hjk : compare j k = .lt) : find? j ((k, v) :: rest) = none :=
  find?_eq_none_of_lt <| List.forall_mem_cons.mpr
    ⟨hjk, fun e he => Std.TransCmp.lt_trans hjk ((List.pairwise_cons.mp h).1 e he)⟩

theorem eq_of_find?_eq [Std.TransOrd κ] {a b : List (κ × β)} (ha : Sorted a) (hb : Sorted b)
    (h : ∀ k, find? k a = find? k b) : a = b := by
  induction a generalizing b with
  | nil =>
    cases b with
    | nil => rfl
    | cons e b => simpa [find?] using h e.1
  | cons d a ih =>
    obtain ⟨k, v⟩ := d
    cases b with
    | nil => simpa [find?] using h k
    | cons e b =>
      obtain ⟨k', v'⟩ := e
      have hk : k = k' := by
        rcases hc : compare k k' with _ | _ | _
        · have := h k
          simp [find?_cons_eq_none_of_lt hb hc] at this
        · exact Std.LawfulEqCmp.eq_of_compare hc
        · have := h k'
          simp [find?_cons_eq_none_of_lt ha (Std.OrientedCmp.gt_iff_lt.mp hc)] at this
      subst hk
      obtain rfl : v = v' := by simpa using h k
      obtain ⟨ha', ha⟩ := List.pairwise_cons.mp ha
      obtain ⟨hb', hb⟩ := List.pairwise_cons.mp hb
      refine congrArg _ (ih ha hb fun j => ?_)
      by_cases hj : j = k
      · rw [hj, find?_eq_none_of_lt ha', find?_eq_none_of_lt hb']
      · simpa [hj] using h j

end LookUp

theorem erase_sorted {k : κ} {entries : List (κ × β)} (h : Sorted entries) :
    Sorted (erase k entries) := List.Pairwise.filter _ h

end Entries

structure SortedMap (κ : Type u) (β : Type v) [Ord κ] where
  entries : List (κ × β)
  sorted : Entries.Sorted entries

namespace SortedMap

instance [DecidableEq κ] [DecidableEq β] : DecidableEq (SortedMap κ β) := fun a b =>
  decidable_of_iff (a.entries = b.entries)
    ⟨fun h => by cases a; cases b; simp_all, fun h => by rw [h]⟩

def empty : SortedMap κ β := ⟨[], .nil⟩

instance : EmptyCollection (SortedMap κ β) := ⟨empty⟩

instance : Inhabited (SortedMap κ β) := ⟨empty⟩

def get? (m : SortedMap κ β) (k : κ) : Option β := Entries.find? k m.entries

def getD (m : SortedMap κ β) (k : κ) (default : β) : β := (m.get? k).getD default

def contains (m : SortedMap κ β) (k : κ) : Bool := (m.get? k).isSome

def size (m : SortedMap κ β) : Nat := m.entries.length

def isEmpty (m : SortedMap κ β) : Bool := m.entries.isEmpty

def keys (m : SortedMap κ β) : List κ := m.entries.map (·.1)

def erase (m : SortedMap κ β) (k : κ) : SortedMap κ β :=
  ⟨Entries.erase k m.entries, Entries.erase_sorted m.sorted⟩

variable [Std.TransOrd κ]

/-- Puts `v` under `k`, in place of what was there. -/
def insert (m : SortedMap κ β) (k : κ) (v : β) : SortedMap κ β :=
  ⟨Entries.set k v m.entries, Entries.set_sorted m.sorted⟩

/-- Puts `v` under `k` unless the key is taken. -/
def insertNew (m : SortedMap κ β) (k : κ) (v : β) : SortedMap κ β :=
  if m.contains k then m else m.insert k v

/-- Of several entries under one key the last stays. -/
def ofList (entries : List (κ × β)) : SortedMap κ β :=
  entries.foldl (fun m e => m.insert e.1 e.2) empty

section LookUp

variable [Std.LawfulEqOrd κ] [DecidableEq κ]

theorem get?_insert (m : SortedMap κ β) (k : κ) (v : β) (j : κ) :
    (m.insert k v).get? j = if j = k then some v else m.get? j := Entries.find?_set ..

omit [Std.TransOrd κ] in
theorem get?_erase (m : SortedMap κ β) (k j : κ) :
    (m.erase k).get? j = if j = k then none else m.get? j := Entries.find?_erase ..

theorem get?_insertNew (m : SortedMap κ β) (k : κ) (v : β) (j : κ) :
    (m.insertNew k v).get? j = if j = k ∧ m.get? k = none then some v else m.get? j := by
  unfold insertNew contains
  cases h : m.get? k <;> simp [get?_insert]

/-- Maps with the same look-ups are the same. -/
theorem ext_get? {a b : SortedMap κ β} (h : ∀ k, a.get? k = b.get? k) : a = b := by
  obtain ⟨entries, ha⟩ := a
  obtain ⟨entries', hb⟩ := b
  obtain rfl : entries = entries' := Entries.eq_of_find?_eq ha hb h
  rfl

end LookUp

end SortedMap

end MarketData
