import Mathlib.Data.List.Nodup
import MarketData.HashOrder

/-! The entries of a sorted map up to order. Look-ups say which entries there are
(`SortedMap.mem_entries`), and putting in a new key or taking one out adds or removes a single entry
(`SortedMap.entries_insert_perm`, `SortedMap.entries_perm_cons_erase`). A hash table hands out just
these, in any order (`HashOrder.handOut_perm`). -/

namespace MarketData

universe u v

variable {κ : Type u} {β : Type v} [Ord κ]

namespace Entries

theorem set_perm [Std.LawfulEqOrd κ] [DecidableEq κ] {k : κ} {v : β} {entries : List (κ × β)}
    (h : find? k entries = none) : (set k v entries).Perm ((k, v) :: entries) := by
  induction entries with
  | nil => exact .rfl
  | cons head rest ih =>
    obtain ⟨k', v'⟩ := head
    have hne : k ≠ k' := by rintro rfl; simp at h
    have hrest : find? k rest = none := by simpa [hne] using h
    simp only [set]
    split
    · exact .rfl
    · rename_i heq; exact absurd (Std.LawfulEqCmp.eq_of_compare heq) hne
    · exact ((ih hrest).cons _).trans (.swap ..)

/-- Entries that are kept under their keys stay in order. -/
theorem Sorted.filterMap {γ : Type*} {g : κ × β → Option (κ × γ)} {entries : List (κ × β)}
    (h : Sorted entries) (hkey : ∀ e e', g e = some e' → e'.1 = e.1) :
    Sorted (entries.filterMap g) := by
  refine List.Pairwise.filterMap g (fun a b hlt a' ha' b' hb' => ?_) h
  rw [hkey a a' ha', hkey b b' hb']
  exact hlt

/-! ### Setting entries one after the other -/

section Setting

variable [Std.TransOrd κ] {entries written : List (κ × β)} {k : κ} {v : β}

theorem foldl_set_sorted (h : Sorted entries) :
    Sorted (written.foldl (fun entries e => set e.1 e.2 entries) entries) := by
  induction written generalizing entries with
  | nil => exact h
  | cons e written ih => exact ih (set_sorted h)

omit [Std.TransOrd κ] in
theorem mem_foldl_set {e : κ × β}
    (h : e ∈ written.foldl (fun entries e => set e.1 e.2 entries) entries) :
    e ∈ written ∨ e ∈ entries := by
  induction written generalizing entries with
  | nil => exact .inr h
  | cons d written ih =>
    rcases ih h with he | he
    · exact .inl (List.mem_cons_of_mem _ he)
    · rcases mem_set_key he with rfl | he
      · exact .inl (List.mem_cons_self ..)
      · exact .inr he

theorem set_of_lt (h : ∀ e ∈ entries, compare e.1 k = .lt) :
    set k v entries = entries ++ [(k, v)] := by
  induction entries with
  | nil => rfl
  | cons e entries ih =>
    obtain ⟨he, hentries⟩ := List.forall_mem_cons.mp h
    have hgt : compare k e.1 = .gt := Std.OrientedCmp.gt_iff_lt.mpr he
    simp only [set, hgt, ih hentries, List.cons_append]

/-- Entries that are in order already stay as they are. -/
theorem foldl_set_of_sorted (h : Sorted (entries ++ written)) :
    written.foldl (fun entries e => set e.1 e.2 entries) entries = entries ++ written := by
  induction written generalizing entries with
  | nil => rw [List.foldl_nil, List.append_nil]
  | cons e written ih =>
    have hset : set e.1 e.2 entries = entries ++ [e] :=
      set_of_lt fun d hd => (List.pairwise_append.mp h).2.2 d hd e (List.mem_cons_self ..)
    have happend : entries ++ [e] ++ written = entries ++ e :: written := by
      rw [List.append_assoc, List.singleton_append]
    rw [List.foldl_cons, hset, ih (by rwa [happend]), happend]

end Setting

variable [Std.LawfulEqOrd κ]

theorem ne_of_compare_lt {j k : κ} (h : compare j k = .lt) : j ≠ k := by
  rintro rfl
  simp [Std.ReflCmp.compare_self] at h

theorem keys_nodup {entries : List (κ × β)} (h : Sorted entries) :
    (entries.map (·.1)).Nodup :=
  List.pairwise_map.mpr (h.imp ne_of_compare_lt)

theorem find?_eq_some_iff [DecidableEq κ] {entries : List (κ × β)} (h : Sorted entries) {k : κ}
    {v : β} :
    find? k entries = some v ↔ (k, v) ∈ entries := by
  induction entries with
  | nil => simp [find?]
  | cons head rest ih =>
    obtain ⟨k', v'⟩ := head
    obtain ⟨hhead, hrest⟩ := List.pairwise_cons.mp h
    rw [find?_cons]
    by_cases hk : k = k'
    · subst hk
      have hnone : (k, v) ∉ rest := fun hm => ne_of_compare_lt (hhead _ hm) rfl
      simp [hnone, eq_comm]
    · simp [hk, ih hrest]

theorem perm_cons_erase {entries : List (κ × β)} (h : Sorted entries) {k : κ} {v : β}
    (hm : (k, v) ∈ entries) : entries.Perm ((k, v) :: erase k entries) := by
  induction entries with
  | nil => simp at hm
  | cons head rest ih =>
    obtain ⟨hhead, hrest⟩ := List.pairwise_cons.mp h
    rcases List.mem_cons.mp hm with rfl | hm
    · have herase : erase k ((k, v) :: rest) = rest := by
        have hkeep : ∀ e ∈ rest, (compare k e.1 != .eq) = true := fun e he => by
          simp [show compare k e.1 = .lt from hhead e he]
        simp [erase, Std.ReflCmp.compare_self, List.filter_eq_self.mpr hkeep]
      rw [herase]
    · have hne : (compare k head.1 != .eq) = true := by
        simp only [bne_iff_ne, ne_eq]
        intro heq
        exact ne_of_compare_lt (hhead _ hm) (Std.LawfulEqCmp.eq_of_compare heq).symm
      have herase : erase k (head :: rest) = head :: erase k rest := by simp [erase, hne]
      rw [herase]
      exact ((ih hrest hm).cons head).trans (.swap ..)

/-- A value that is there is replaced in its place. -/
theorem set_append [Std.TransOrd κ] {k : κ} {v v' : β} {before after : List (κ × β)}
    (h : Sorted (before ++ (k, v) :: after)) :
    set k v' (before ++ (k, v) :: after) = before ++ (k, v') :: after := by
  induction before with
  | nil => simp [set, Std.ReflCmp.compare_self]
  | cons e before ih =>
    obtain ⟨hhead, hrest⟩ := List.pairwise_cons.mp h
    have hgt : compare k e.1 = .gt := Std.OrientedCmp.gt_iff_lt.mpr (hhead (k, v) (by simp))
    simp only [List.cons_append, set, hgt, ih hrest]

theorem find?_map_values [DecidableEq κ] {γ : Type*} (g : κ → β → γ) (entries : List (κ × β))
    (k : κ) :
    find? k (entries.map fun e => (e.1, g e.1 e.2)) = (find? k entries).map (g k) := by
  induction entries with
  | nil => rfl
  | cons e entries ih =>
    obtain ⟨k', v⟩ := e
    rw [List.map_cons, find?_cons, find?_cons, ih]
    by_cases hk : k = k'
    · rw [if_pos hk, if_pos hk, hk]
      rfl
    · rw [if_neg hk, if_neg hk]

end Entries

namespace SortedMap

variable {m : SortedMap κ β} {k : κ} {v : β}

@[simp] theorem get?_empty : (∅ : SortedMap κ β).get? k = none := rfl

variable [Std.LawfulEqOrd κ]

theorem keys_nodup (m : SortedMap κ β) : (m.entries.map (·.1)).Nodup := Entries.keys_nodup m.sorted

variable [DecidableEq κ]

theorem mem_entries : (k, v) ∈ m.entries ↔ m.get? k = some v :=
  (Entries.find?_eq_some_iff m.sorted).symm

theorem mem_keys : k ∈ m.keys ↔ ∃ v, m.get? k = some v := by
  simp [keys, mem_entries]

/-- The keys are any list of distinct keys under which something is found. -/
theorem keys_perm {ks : List κ} (hnd : ks.Nodup) (h : ∀ k, k ∈ ks ↔ ∃ v, m.get? k = some v) :
    m.keys.Perm ks :=
  (List.perm_ext_iff_of_nodup m.keys_nodup hnd).mpr fun k => mem_keys.trans (h k).symm

theorem entries_perm_cons_erase (h : m.get? k = some v) :
    m.entries.Perm ((k, v) :: (m.erase k).entries) :=
  Entries.perm_cons_erase m.sorted (mem_entries.mpr h)

/-- A key that is there stands once. -/
theorem filter_key (h : m.get? k = some v) : m.entries.filter (·.1 = k) = [(k, v)] := by
  have hrest : (m.erase k).entries.filter (·.1 = k) = [] := by
    refine List.filter_eq_nil_iff.mpr fun e he => ?_
    have hget := mem_entries.mp (show (e.1, e.2) ∈ (m.erase k).entries from he)
    rw [get?_erase] at hget
    split at hget
    · contradiction
    · simpa
  have hperm := (entries_perm_cons_erase h).filter (·.1 = k)
  rw [List.filter_cons_of_pos (by simp), hrest] at hperm
  exact List.perm_singleton.mp hperm

theorem entries_insert_perm [Std.TransOrd κ] (h : m.get? k = none) :
    (m.insert k v).entries.Perm ((k, v) :: m.entries) := Entries.set_perm h

/-- Maps that differ in the value of one key differ in one place. -/
theorem entries_split [Std.TransOrd κ] {m m' : SortedMap κ β} {v' : β} (hget : m.get? k = some v)
    (hget' : m'.get? k = some v') (hothers : ∀ j, j ≠ k → m'.get? j = m.get? j) :
    ∃ before after, m.entries = before ++ (k, v) :: after ∧
      m'.entries = before ++ (k, v') :: after := by
  have hinsert : m' = m.insert k v' := by
    apply ext_get?
    intro j
    rw [get?_insert]
    split
    · rename_i hj
      rw [hj, hget']
    · exact hothers j ‹_›
  obtain ⟨before, after, hsplit⟩ := List.append_of_mem (mem_entries.mpr hget)
  refine ⟨before, after, hsplit, ?_⟩
  have hsorted := m.sorted
  rw [hsplit] at hsorted
  have hentries : m'.entries = Entries.set k v' m.entries := by
    rw [hinsert]
    rfl
  rw [hentries, hsplit, Entries.set_append hsorted]

/-- Every value is replaced by one made of it and its key. -/
def mapValues {γ : Type*} (g : κ → β → γ) (m : SortedMap κ β) : SortedMap κ γ where
  entries := m.entries.map fun e => (e.1, g e.1 e.2)
  sorted := by
    rw [Entries.Sorted, List.pairwise_map]
    exact m.sorted

theorem get?_mapValues {γ : Type*} (g : κ → β → γ) (m : SortedMap κ β) (k : κ) :
    (m.mapValues g).get? k = (m.get? k).map (g k) := Entries.find?_map_values ..

section Folding

variable [Std.TransOrd κ] {α : Type*} {f : α → κ × β} {l : List α} {a : α}

theorem get?_foldl_insert_of_not_mem (h : k ∉ l.map fun a => (f a).1) :
    (l.foldl (fun m a => m.insert (f a).1 (f a).2) m).get? k = m.get? k := by
  induction l generalizing m with
  | nil => rfl
  | cons a l ih =>
    simp only [List.map_cons, List.mem_cons, not_or] at h
    rw [List.foldl_cons, ih h.2, get?_insert, if_neg h.1]

/-- Of entries under distinct keys all stay. -/
theorem get?_foldl_insert_of_mem (hnd : (l.map fun a => (f a).1).Nodup) (h : a ∈ l) :
    (l.foldl (fun m a => m.insert (f a).1 (f a).2) m).get? (f a).1 = some (f a).2 := by
  induction l generalizing m with
  | nil => simp at h
  | cons b l ih =>
    rw [List.map_cons, List.nodup_cons] at hnd
    rw [List.foldl_cons]
    rcases List.mem_cons.mp h with rfl | h
    · rw [get?_foldl_insert_of_not_mem hnd.1, get?_insert, if_pos rfl]
    · exact ih hnd.2 h

/-- A map made of entries under distinct keys has these entries. -/
theorem get?_ofList_eq_some_iff {l : List (κ × β)} (hnd : (l.map (·.1)).Nodup) :
    (ofList l).get? k = some v ↔ (k, v) ∈ l := by
  have hmem : ∀ e ∈ l, (ofList l).get? e.1 = some e.2 := fun e he =>
    get?_foldl_insert_of_mem (f := fun e => e) hnd he
  constructor
  · intro hget
    by_cases hk : k ∈ l.map (·.1)
    · obtain ⟨e, he, rfl⟩ := List.mem_map.mp hk
      rw [hmem e he] at hget
      cases hget
      exact he
    · have hnone : (ofList l).get? k = none := get?_foldl_insert_of_not_mem (f := fun e => e) hk
      rw [hnone] at hget
      contradiction
  · exact fun he => hmem _ he

/-- The keys of a map made of a list are the keys of the list. -/
theorem mem_keys_foldl_insert {l : List (κ × β)} :
    k ∈ (l.foldl (fun m e => m.insert e.1 e.2) m).keys ↔ k ∈ l.map (·.1) ∨ k ∈ m.keys := by
  induction l generalizing m with
  | nil => simp
  | cons e l ih =>
    have hinsert : k ∈ (m.insert e.1 e.2).keys ↔ k = e.1 ∨ k ∈ m.keys := by
      simp only [mem_keys, get?_insert]
      by_cases hk : k = e.1 <;> simp [hk]
    rw [List.foldl_cons, ih, hinsert, List.map_cons, List.mem_cons]
    tauto

theorem mem_keys_ofList {l : List (κ × β)} : k ∈ (ofList l).keys ↔ k ∈ l.map (·.1) := by
  rw [ofList, mem_keys_foldl_insert]
  exact or_iff_left (by simp [keys, empty])

end Folding

end SortedMap

namespace HashOrder

variable {κ : Type} {β : Type} [Ord κ] [Std.LawfulEqOrd κ] [DecidableEq κ]

theorem handOut_perm (order : HashOrder κ) {entries : List (κ × β)} (h : Entries.Sorted entries) :
    (order.handOut entries).Perm entries := by
  have hkeys : (entries.map (·.1)).filterMap
      (fun k => (Entries.find? k entries).map (k, ·)) = entries := by
    rw [List.filterMap_map]
    refine (List.filterMap_congr fun e he => ?_).trans List.filterMap_some
    have hfind : Entries.find? e.1 entries = some e.2 := (Entries.find?_eq_some_iff h).mpr he
    simp [hfind]
  have hperm := (order.perm (entries.map (·.1))).filterMap
    fun k => (Entries.find? k entries).map (k, ·)
  rwa [hkeys] at hperm

theorem handOut_of_single (order : HashOrder κ) (k : κ) (v : β) :
    order.handOut [(k, v)] = [(k, v)] :=
  List.perm_singleton.mp (order.handOut_perm (List.pairwise_singleton ..))

end HashOrder

end MarketData
