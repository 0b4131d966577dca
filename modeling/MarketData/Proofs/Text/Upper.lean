import Mathlib.Data.List.Basic
import MarketData.Text.Upper

/-! Upper case stays as it is: what a character becomes has no upper case of its own, so
upper-casing twice is upper-casing once (`Upper.ofString_ofString`). The tables are compared range
by range, not character by character. A range of images need not be clear of every run: runs that
take every second code point alternate with their images. -/

namespace MarketData

namespace CodePoints

variable {n m : Nat} {runs : List (Nat × Nat × Nat × Nat)}

theorem image?_eq_some (h : image? n runs = some m) :
    ∃ run ∈ runs, run.1 ≤ n ∧ n ≤ run.2.1 ∧ (n - run.1) % run.2.2.1 = 0 ∧
      m = run.2.2.2 + (n - run.1) := by
  induction runs with
  | nil => contradiction
  | cons run runs ih =>
    obtain ⟨first, last, step, image⟩ := run
    rw [image?] at h
    split at h
    · rename_i hin
      exact ⟨_, List.mem_cons_self, hin.1, hin.2.1, hin.2.2, (Option.some.inj h).symm⟩
    · obtain ⟨run, hmem, hrun⟩ := ih h
      exact ⟨run, List.mem_cons_of_mem _ hmem, hrun⟩

theorem image?_eq_none
    (h : ∀ run ∈ runs, run.1 ≤ n → n ≤ run.2.1 → (n - run.1) % run.2.2.1 ≠ 0) :
    image? n runs = none := by
  refine Option.eq_none_iff_forall_ne_some.mpr fun m himage => ?_
  obtain ⟨run, hmem, hfirst, hlast, hstep, -⟩ := image?_eq_some himage
  exact h run hmem hfirst hlast hstep

end CodePoints

namespace Upper

variable {n : Nat} {c d : Char}

/-- A code point that neither table changes. -/
structure Settled (n : Nat) : Prop where
  image? : CodePoints.image? n runs = none
  lookup : expansions.lookup n = none

/-! ## Ranges -/

/-- The run takes a code point from `bottom` to `top`. If the range is sparse, only those as odd or
even as `bottom` count. -/
def meets (bottom top : Nat) (sparse : Bool) (run : Nat × Nat × Nat × Nat) : Bool :=
  Nat.ble run.1 top && Nat.ble bottom run.2.1 &&
    !(sparse && Nat.beq run.2.2.1 2 && !Nat.beq (bottom % 2) (run.1 % 2))

theorem meets_eq_true_iff {bottom top : Nat} {sparse : Bool} {run : Nat × Nat × Nat × Nat} :
    meets bottom top sparse run = true ↔ run.1 ≤ top ∧ bottom ≤ run.2.1 ∧
      ¬ (sparse = true ∧ run.2.2.1 = 2 ∧ bottom % 2 ≠ run.1 % 2) := by
  simp only [meets, Bool.and_eq_true, Nat.ble_eq, Bool.not_eq_true', Bool.eq_false_iff, ne_eq,
    Nat.beq_eq, and_assoc]

/-- Neither table takes a code point of the range. -/
def isClear (bottom top : Nat) (sparse : Bool) : Bool :=
  !runs.any (meets bottom top sparse) &&
    !expansions.any fun e => Nat.ble bottom e.1 && Nat.ble e.1 top

theorem settled_of_isClear {bottom top : Nat} {sparse : Bool} (h : isClear bottom top sparse = true)
    (hbottom : bottom ≤ n) (htop : n ≤ top) (hsparse : sparse = true → n % 2 = bottom % 2) :
    Settled n := by
  rw [isClear, Bool.and_eq_true, Bool.not_eq_true', Bool.not_eq_true', List.any_eq_false,
    List.any_eq_false] at h
  obtain ⟨hruns, hexpansions⟩ := h
  refine ⟨CodePoints.image?_eq_none fun run hmem hfirst hlast hstep => ?_, ?_⟩
  · refine hruns run hmem (meets_eq_true_iff.mpr ⟨by omega, by omega, ?_⟩)
    rintro ⟨hs, htwo, hne⟩
    have heven := hsparse hs
    rw [htwo] at hstep
    omega
  · refine List.lookup_eq_none_iff.mpr fun e hmem => ?_
    have hout := hexpansions e hmem
    rw [Bool.and_eq_true, Nat.ble_eq, Nat.ble_eq] at hout
    simp only [bne_iff_ne, ne_eq]
    omega

/-! ## What the tables lead to -/

theorem runs_clear : (runs.all fun run =>
    isClear run.2.2.2 (run.2.2.2 + (run.2.1 - run.1))
      (Nat.beq run.2.2.1 2 || Nat.beq run.1 run.2.1)) = true := by decide +kernel

theorem expansions_clear :
    (expansions.all fun e => e.2.all fun code => isClear code code false) = true := by
  decide +kernel

theorem nul_clear : isClear 0 0 false = true := by decide +kernel

/-- The images of a run that takes one code point, or every second one, are as odd or even as the
first. -/
theorem settled_of_image? {m : Nat} (h : CodePoints.image? n runs = some m) : Settled m := by
  obtain ⟨run, hmem, hfirst, hlast, hstep, rfl⟩ := CodePoints.image?_eq_some h
  refine settled_of_isClear (List.all_eq_true.mp runs_clear run hmem) (by omega) (by omega) ?_
  intro hsparse
  rw [Bool.or_eq_true, Nat.beq_eq, Nat.beq_eq] at hsparse
  rcases hsparse with htwo | hone
  · rw [htwo] at hstep
    omega
  · omega

theorem settled_of_lookup {codes : List Nat} (h : expansions.lookup n = some codes) {code : Nat}
    (hcode : code ∈ codes) : Settled code := by
  obtain ⟨before, after, hsplit, -⟩ := List.lookup_eq_some_iff.mp h
  have hmem : (n, codes) ∈ expansions := by rw [hsplit]; simp
  have hclear := List.all_eq_true.mp (List.all_eq_true.mp expansions_clear _ hmem) code hcode
  exact settled_of_isClear hclear (Nat.le_refl _) (Nat.le_refl _) (by simp)

/-! ## Characters and texts -/

theorem Settled.ofChar (h : Settled c.toNat) : Upper.ofChar c = [c] := by
  rw [Upper.ofChar, h.lookup, h.image?]

/-- A code point that is no character stands for NUL. -/
theorem Settled.ofNat (h : Settled n) : Settled (Char.ofNat n).toNat := by
  by_cases hvalid : n.isValidChar
  · rw [Char.ofNat, dif_pos hvalid]
    exact h
  · rw [Char.ofNat, dif_neg hvalid]
    exact settled_of_isClear nul_clear (Nat.le_refl _) (Nat.le_refl _) (by simp)

theorem ofChar_of_mem (h : d ∈ ofChar c) : ofChar d = [d] := by
  unfold ofChar at h
  split at h
  · rename_i codes hlookup
    obtain ⟨code, hcode, rfl⟩ := List.mem_map.mp h
    exact (settled_of_lookup hlookup hcode).ofNat.ofChar
  · rename_i hlookup
    split at h
    · rename_i himage
      rw [List.mem_singleton.mp h]
      exact (settled_of_image? himage).ofNat.ofChar
    · rename_i himage
      rw [List.mem_singleton.mp h]
      exact Settled.ofChar ⟨himage, hlookup⟩

theorem ofString_ofString (s : String) : ofString (ofString s) = ofString s := by
  have hchar : ∀ c ∈ s.toList, (ofChar c).flatMap ofChar = ofChar c := fun c _ => by
    rw [List.flatMap_congr fun d hd => ofChar_of_mem hd, List.flatMap_singleton']
  rw [ofString, ofString, String.toList_ofList, List.flatMap_assoc, List.flatMap_congr hchar]

end Upper

end MarketData
