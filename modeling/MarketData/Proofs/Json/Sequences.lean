import MarketData.Proofs.Json.Numbers
import MarketData.Proofs.Steps

/-! The elements of a list and the members of an object are read by one loop (`Bracket.sequence`).
What it reads was read element by element (`Bracket.mem_of_sequence`), and elements that are each
read back as they were written are read back in sequence, whatever blanks stand around them
(`Bracket.sequence_spelled`). -/

namespace MarketData.Json

/-! ## Blanks -/

/-- Nothing but blanks. -/
def Blank (bytes : Bytes) : Prop := ∀ b ∈ bytes, isBlank b = true

theorem Blank.nil : Blank [] := fun _ h => nomatch h

section Blanks

variable {b : UInt8} {gap rest : Bytes}

theorem skipBlanks_append (h : Blank gap) : skipBlanks (gap ++ rest) = skipBlanks rest :=
  List.dropWhile_append_of_pos h

theorem skipBlanks_append_cons (h : Blank gap) (hb : isBlank b = false) :
    skipBlanks (gap ++ b :: rest) = b :: rest := by
  rw [skipBlanks_append h, skipBlanks_cons hb]

theorem Parted.append (h : Blank gap) (hrest : Parted rest) : Parted (gap ++ rest) := by
  cases gap with
  | nil => exact hrest
  | cons b gap =>
    have hb : isBlank b = true := h b (List.mem_cons_self ..)
    simp only [isBlank, Bool.or_eq_true, beq_iff_eq] at hb
    rcases hb with ((rfl | rfl) | rfl) | rfl <;> exact ⟨rfl, by decide, rfl⟩

end Blanks

/-! ## One loop for lists and objects -/

inductive Bracket
  | list
  | object

namespace Bracket

def close : Bracket → UInt8
  | list => byte ']'
  | object => byte '}'

/-- Where the text ends too early. -/
def unfinished : Bracket → Problem
  | list => .endInList
  | object => .endInObject

/-- Where neither a comma nor the bracket follows. -/
def unparted : Bracket → Problem
  | list => .expectedCommaOrListEnd
  | object => .expectedCommaOrObjectEnd

theorem isBlank_close (k : Bracket) : isBlank k.close = false := by cases k <;> rfl

theorem parted_close (k : Bracket) (rest : Bytes) : Parted (k.close :: rest) := by
  cases k <;> exact ⟨rfl, by decide, rfl⟩

variable {α β : Type}

/-- The elements after the first, each behind a comma, up to the closing bracket. -/
def more (k : Bracket) (read : Reader α) : Nat → Reader (List α)
  | 0, rest => haltOn k.unfinished rest
  | fuel + 1, rest =>
    match skipBlanks rest with
    | [] => haltOn k.unfinished []
    | b :: r =>
      if b == k.close then .ok ([], r)
      else if b == byte ',' then
        match skipBlanks r with
        | [] => haltOn .endInValue []
        | c :: r =>
          if c == k.close then haltOn .trailingComma (c :: r)
          else do
            let (x, r) ← read (c :: r)
            let (xs, r) ← more k read fuel r
            .ok (x :: xs, r)
      else haltOn k.unparted (b :: r)

/-- A sequence after its opening bracket. -/
def sequence (k : Bracket) (read : Reader α) : Reader (List α) := fun rest =>
  match skipBlanks rest with
  | [] => haltOn k.unfinished []
  | b :: r =>
    if b == k.close then .ok ([], r)
    else do
      let (x, r) ← read (b :: r)
      let (xs, r) ← more k read (r.length + 1) r
      .ok (x :: xs, r)

theorem moreItems_eq (read : Reader α) (fuel : Nat) (rest : Bytes) :
    moreItems read fuel rest = more list read fuel rest := by
  induction fuel generalizing rest with
  | zero => rfl
  | succ fuel ih =>
    simp only [moreItems, more, ih]
    rfl

theorem items_eq (read : Reader α) (rest : Bytes) : items read rest = sequence list read rest := by
  simp only [items, sequence, moreItems_eq]
  rfl

theorem moreMembers_eq (read : Reader α) (fuel : Nat) (rest : Bytes) :
    moreMembers read fuel rest = more object (member read) fuel rest := by
  induction fuel generalizing rest with
  | zero => rfl
  | succ fuel ih =>
    simp only [moreMembers, more, ih]
    rfl

theorem members_eq (read : Reader α) (rest : Bytes) :
    members read rest = sequence object (member read) rest := by
  simp only [members, sequence, moreMembers_eq]
  rfl

/-! ### What was read -/

/-- The reader gives `x` somewhere. -/
def Gives (read : Reader α) (x : α) : Prop := ∃ rest r, read rest = .ok (x, r)

theorem mem_of_more {k : Bracket} {read : Reader α} {fuel : Nat} {rest r : Bytes} {xs : List α}
    (h : more k read fuel rest = .ok (xs, r)) : ∀ x ∈ xs, Gives read x := by
  induction fuel generalizing rest xs with
  | zero => cases h
  | succ fuel ih =>
    simp only [more] at h
    split at h
    · cases h
    split at h
    · cases h
      simp
    split at h
    · split at h
      · cases h
      split at h
      · cases h
      · obtain ⟨x, hread, h⟩ := Steps.bind_eq_ok_iff.mp h
        obtain ⟨xs, hmore, h⟩ := Steps.bind_eq_ok_iff.mp h
        cases h
        exact List.forall_mem_cons.mpr ⟨⟨_, _, hread⟩, ih hmore⟩
    · cases h

theorem mem_of_sequence {k : Bracket} {read : Reader α} {rest r : Bytes} {xs : List α}
    (h : sequence k read rest = .ok (xs, r)) : ∀ x ∈ xs, Gives read x := by
  unfold sequence at h
  split at h
  · cases h
  split at h
  · cases h
    simp
  · obtain ⟨x, hread, h⟩ := Steps.bind_eq_ok_iff.mp h
    obtain ⟨xs, hmore, h⟩ := Steps.bind_eq_ok_iff.mp h
    cases h
    exact List.forall_mem_cons.mpr ⟨⟨_, _, hread⟩, mem_of_more hmore⟩

end Bracket

/-! ## What is written -/

/-- A byte that an element can start with. -/
def opens (b : UInt8) : Bool := !isBlank b && b != byte ']' && b != byte '}'

theorem isBlank_of_opens {b : UInt8} (h : opens b = true) : isBlank b = false := by
  simp only [opens, Bool.and_eq_true, Bool.not_eq_true'] at h
  exact h.1.1

theorem beq_close_of_opens {b : UInt8} (h : opens b = true) (k : Bracket) :
    (b == k.close) = false := by
  simp only [opens, Bool.and_eq_true, bne_iff_ne] at h
  cases k with
  | list => exact beq_eq_false_iff_ne.mpr h.1.2
  | object => exact beq_eq_false_iff_ne.mpr h.2

/-- `written` is read as `x`, and nothing after it is, unless it goes on with a number. -/
structure Spells {α : Type} (read : Reader α) (written : Bytes) (x : α) : Prop where
  starts : ∃ b more, written = b :: more ∧ opens b = true
  reads : ∀ rest, Parted rest → read (written ++ rest) = .ok (x, rest)

namespace Bracket

variable {α β : Type} {k : Bracket} {read : Reader α} {spell : α → Bytes} {gap closing : Bytes}
  {xs : List α}

/-- The elements after the first, each behind a comma and a gap. -/
def spellMore (gap : Bytes) (spell : α → Bytes) (xs : List α) : Bytes :=
  xs.flatMap fun x => byte ',' :: (gap ++ spell x)

/-- A sequence after its opening bracket. -/
def spellAll (k : Bracket) (gap closing : Bytes) (spell : α → Bytes) : List α → Bytes
  | [] => [k.close]
  | x :: xs => gap ++ spell x ++ spellMore gap spell xs ++ closing ++ [k.close]

theorem spellAll_map (k : Bracket) (gap closing : Bytes) (spell : α → Bytes) (f : β → α)
    (xs : List β) : k.spellAll gap closing spell (xs.map f) =
      k.spellAll gap closing (fun x => spell (f x)) xs := by
  cases xs with
  | nil => rfl
  | cons x xs => rw [List.map_cons, spellAll, spellMore, List.flatMap_map]; rfl

theorem length_le_spellMore (gap : Bytes) (spell : α → Bytes) (xs : List α) :
    xs.length ≤ (spellMore gap spell xs).length := by
  induction xs with
  | nil => exact Nat.le_refl _
  | cons x xs ih =>
    rw [spellMore, List.flatMap_cons, ← spellMore, List.length_append, List.length_cons,
      List.length_cons]
    omega

theorem parted_spellMore (k : Bracket) (gap : Bytes) (spell : α → Bytes) (xs : List α)
    (hclosing : Blank closing) (rest : Bytes) :
    Parted (spellMore gap spell xs ++ (closing ++ k.close :: rest)) := by
  cases xs with
  | nil =>
    have hclose : Parted (closing ++ k.close :: rest) := (k.parted_close rest).append hclosing
    exact hclose
  | cons x xs => exact ⟨rfl, by decide, rfl⟩

theorem more_spelled (hgap : Blank gap) (hclosing : Blank closing)
    (h : ∀ x ∈ xs, Spells read (spell x) x) (rest : Bytes) {fuel : Nat} (hfuel : xs.length < fuel) :
    more k read fuel (spellMore gap spell xs ++ (closing ++ k.close :: rest)) = .ok (xs, rest) := by
  induction xs generalizing fuel with
  | nil =>
    obtain ⟨fuel, rfl⟩ := Nat.exists_eq_add_one.mpr hfuel
    have hskip : skipBlanks (closing ++ k.close :: rest) = k.close :: rest :=
      skipBlanks_append_cons hclosing k.isBlank_close
    rw [spellMore, List.flatMap_nil, List.nil_append, more, hskip]
    simp
  | cons x xs ih =>
    obtain ⟨fuel, rfl⟩ := Nat.exists_eq_add_one.mpr (Nat.zero_lt_of_lt hfuel)
    obtain ⟨hx, hxs⟩ := List.forall_mem_cons.mp h
    have hmore := ih hxs (Nat.lt_of_succ_lt_succ hfuel)
    obtain ⟨b, tail, heq, hopens⟩ := hx.starts
    have hread := hx.reads _ (k.parted_spellMore gap spell xs hclosing rest)
    rw [heq, List.cons_append] at hread
    have hcomma (r : Bytes) : skipBlanks (byte ',' :: r) = byte ',' :: r := skipBlanks_cons rfl
    have hnotClose : (byte ',' == k.close) = false := by cases k <;> rfl
    have hneClose := beq_close_of_opens hopens k
    rw [spellMore, List.flatMap_cons, ← spellMore, heq]
    simp only [List.cons_append, List.append_assoc]
    simp only [more, hcomma, hnotClose, Bool.false_eq_true, if_false, beq_self_eq_true, if_true,
      skipBlanks_append_cons hgap (isBlank_of_opens hopens), hneClose, hread, bind, Except.bind,
      hmore]

/-- Elements that are read back one by one are read back in sequence. -/
theorem sequence_spelled (hgap : Blank gap) (hclosing : Blank closing)
    (h : ∀ x ∈ xs, Spells read (spell x) x) (rest : Bytes) :
    sequence k read (spellAll k gap closing spell xs ++ rest) = .ok (xs, rest) := by
  cases xs with
  | nil =>
    rw [spellAll, List.singleton_append, sequence, skipBlanks_cons k.isBlank_close]
    simp
  | cons x xs =>
    obtain ⟨hx, hxs⟩ := List.forall_mem_cons.mp h
    obtain ⟨b, tail, heq, hopens⟩ := hx.starts
    have hread := hx.reads _ (k.parted_spellMore gap spell xs hclosing rest)
    rw [heq, List.cons_append] at hread
    have hfuel : xs.length <
        (spellMore gap spell xs ++ (closing ++ k.close :: rest)).length + 1 := by
      have hle := length_le_spellMore gap spell xs
      rw [List.length_append]
      omega
    have hmore := more_spelled (k := k) hgap hclosing hxs rest hfuel
    have hneClose := beq_close_of_opens hopens k
    rw [spellAll, heq]
    simp only [List.cons_append, List.append_assoc, List.nil_append]
    simp only [sequence, skipBlanks_append_cons hgap (isBlank_of_opens hopens), hneClose,
      Bool.false_eq_true, if_false, hread, bind, Except.bind, hmore]

end Bracket

end MarketData.Json
