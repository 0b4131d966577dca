import Mathlib.Data.List.Basic
import MarketData.Json.Writer
import MarketData.Proofs.Json.Strings

/-! Whole numbers of 64 bits are read back as they were written (`Number.read_digits`), as long as
what follows does not go on with the number (`Parted`). -/

namespace MarketData.Json

/-- What follows a number does not belong to it. -/
def Parted : Bytes → Prop
  | [] => True
  | b :: _ => isDigit b = false ∧ b ≠ byte '.' ∧ isExponentMark b = false

namespace Number

variable {c : Char} {n : Nat} {chars : List Char} {negative : Bool} {rest : Bytes}

/-! ## Digits as bytes -/

theorem toNat_byte (h : c.toNat < 128) : (byte c).toNat = c.toNat := by
  rw [byte, UInt8.toNat_ofNat', Nat.mod_eq_of_lt (by omega)]

theorem utf8EncodeChar_of_ascii (h : c.toNat < 128) : String.utf8EncodeChar c = [byte c] := by
  have hle : c.val.toNat ≤ 127 := Nat.le_of_lt_succ h
  rw [String.utf8EncodeChar, if_pos hle]
  rfl

theorem toNat_of_isDigit (h : c.isDigit) : 48 ≤ c.toNat ∧ c.toNat ≤ 57 :=
  Char.isDigit_iff_toNat.mp h

theorem isDigit_byte (h : c.isDigit) : isDigit (byte c) = true := by
  obtain ⟨hlow, hhigh⟩ := toNat_of_isDigit h
  have hcode := toNat_byte (c := c) (by omega)
  rw [isDigit, Bool.and_eq_true, decide_eq_true_iff, decide_eq_true_iff, UInt8.le_iff_toNat_le,
    UInt8.le_iff_toNat_le, hcode]
  exact ⟨hlow, hhigh⟩

theorem digitValue_byte (h : c.isDigit) : digitValue (byte c) = c.toNat - '0'.toNat := by
  have hhigh := (toNat_of_isDigit h).2
  rw [digitValue, toNat_byte (by omega)]
  rfl

/-- The bytes of a number in decimal. -/
def digits (n : Nat) : Bytes := (Nat.toDigits 10 n).map byte

theorem isDigit_of_mem_toDigits (h : c ∈ Nat.toDigits 10 n) : c.isDigit :=
  Nat.isDigit_of_mem_toDigits (by decide) (by decide) h

theorem ofChars_of_digits (h : ∀ c ∈ chars, c.isDigit) : Bytes.ofChars chars = chars.map byte := by
  induction chars with
  | nil => rfl
  | cons c chars ih =>
    obtain ⟨hc, hchars⟩ := List.forall_mem_cons.mp h
    have hhigh := (toNat_of_isDigit hc).2
    have hbyte : String.utf8EncodeChar c = [byte c] := utf8EncodeChar_of_ascii (by omega)
    rw [Bytes.ofChars, List.flatMap_cons, hbyte, ← Bytes.ofChars, ih hchars]
    rfl

theorem ofChars_toDigits (n : Nat) : Bytes.ofChars (Nat.toDigits 10 n) = digits n :=
  ofChars_of_digits fun _ => isDigit_of_mem_toDigits

theorem isDigit_of_mem_digits {b : UInt8} (h : b ∈ digits n) : isDigit b = true := by
  obtain ⟨c, hc, rfl⟩ := List.mem_map.mp h
  exact isDigit_byte (isDigit_of_mem_toDigits hc)

theorem digits_zero : digits 0 = [byte '0'] := rfl

/-- Only zero starts with a zero. -/
theorem digits_of_pos (h : 0 < n) : ∃ b more, digits n = b :: more ∧ b ≠ byte '0' := by
  induction n using Nat.strong_induction_on with
  | _ n ih =>
    by_cases hlt : n < 10
    · refine ⟨byte n.digitChar, [], by rw [digits, Nat.toDigits_of_lt_base hlt]; rfl, ?_⟩
      have hchar := Nat.toNat_digitChar_of_lt_ten hlt
      intro heq
      have hcode := congrArg UInt8.toNat heq
      rw [toNat_byte (by omega), hchar] at hcode
      change 48 + n = 48 at hcode
      omega
    · obtain ⟨b, more, heq, hne⟩ := ih (n / 10) (by omega) (by omega)
      refine ⟨b, more ++ [byte (n % 10).digitChar], ?_, hne⟩
      rw [digits, Nat.toDigits_of_base_le (by decide) (by omega), List.map_append, ← digits, heq]
      rfl

/-! ## Reading digits -/

theorem le_ofDigitChars (chars : List Char) (n : Nat) : n ≤ Nat.ofDigitChars 10 chars n := by
  rw [Nat.ofDigitChars_eq_foldl]
  induction chars generalizing n with
  | nil => exact Nat.le_refl n
  | cons c chars ih =>
    refine Nat.le_trans ?_ (ih (10 * n + (c.toNat - '0'.toNat)))
    omega

/-- Digits whose value fits are all taken. -/
theorem gather_of_digits (h : ∀ c ∈ chars, c.isDigit)
    (hfits : Nat.ofDigitChars 10 chars n ≤ largest) :
    gather n (chars.map byte) = (Nat.ofDigitChars 10 chars n, []) := by
  induction chars generalizing n with
  | nil => rfl
  | cons c chars ih =>
    obtain ⟨hc, hchars⟩ := List.forall_mem_cons.mp h
    rw [Nat.ofDigitChars_cons] at hfits ⊢
    have hnext := Nat.le_trans (le_ofDigitChars chars _) hfits
    rw [List.map_cons, gather, digitValue_byte hc, if_neg (Nat.not_lt.mpr hnext)]
    exact ih hchars hfits

theorem gather_digits (h : n ≤ largest) : gather 0 (digits n) = (n, []) := by
  have hvalue : Nat.ofDigitChars 10 (Nat.toDigits 10 n) 0 = n :=
    Nat.ofDigitChars_toDigits (by decide) (by decide)
  rw [digits, gather_of_digits, hvalue]
  · exact fun _ => isDigit_of_mem_toDigits
  · rwa [hvalue]

theorem takeWhile_digits (hrest : Parted rest) :
    (digits n ++ rest).takeWhile isDigit = digits n := by
  rw [List.takeWhile_append_of_pos fun _ => isDigit_of_mem_digits]
  cases rest with
  | nil => simp
  | cons b rest => rw [List.takeWhile_cons_of_neg (by simp [hrest.1]), List.append_nil]

theorem dropWhile_digits (hrest : Parted rest) : (digits n ++ rest).dropWhile isDigit = rest := by
  rw [List.dropWhile_append_of_pos fun _ => isDigit_of_mem_digits]
  cases rest with
  | nil => rfl
  | cons b rest => exact List.dropWhile_cons_of_neg (by simp [hrest.1])

theorem afterWhole_of_parted (hrest : Parted rest) :
    afterWhole negative n 0 rest = .ok (ofWhole negative n, rest) := by
  cases rest with
  | nil => rfl
  | cons b rest =>
    obtain ⟨-, hpoint, hmark⟩ := hrest
    rw [afterWhole, if_neg (by simpa using hpoint), if_neg (by simp [hmark]), if_pos rfl]

/-- A number that was written is read back, up to the first byte that is not its own. -/
theorem read_digits (h : n ≤ largest) (hrest : Parted rest) :
    read negative (digits n ++ rest) = .ok (ofWhole negative n, rest) := by
  by_cases hzero : n = 0
  · subst hzero
    rw [digits_zero, List.singleton_append]
    cases rest with
    | nil => exact afterWhole_of_parted hrest
    | cons b rest =>
      simp only [read, beq_self_eq_true, if_true, hrest.1, Bool.false_eq_true, if_false]
      exact afterWhole_of_parted hrest
  · obtain ⟨b, more, heq, hne⟩ := digits_of_pos (Nat.pos_of_ne_zero hzero)
    have hdigit : isDigit b = true := isDigit_of_mem_digits (n := n) (by simp [heq])
    have htake := takeWhile_digits (n := n) hrest
    have hdrop := dropWhile_digits (n := n) hrest
    have hgather := gather_digits h
    rw [heq, List.cons_append] at htake hdrop
    rw [heq] at hgather
    rw [List.dropWhile_cons_of_pos hdigit] at hdrop
    rw [heq, List.cons_append]
    simp only [read, beq_eq_false_iff_ne.mpr hne, Bool.false_eq_true, if_false, hdigit, if_true,
      htake, hgather, hdrop]
    exact afterWhole_of_parted hrest

end Number

end MarketData.Json
