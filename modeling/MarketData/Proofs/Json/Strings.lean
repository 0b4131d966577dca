import Mathlib.Data.List.Basic
import Mathlib.Tactic.IntervalCases
import MarketData.Json.Typed
import MarketData.Proofs.Url.Percent

/-! Texts are read back as they were written (`Json.parse_compact_text`), whatever characters they
hold: a character that is escaped is read by `escape`, and the bytes of any other stand for
themselves. -/

namespace MarketData

namespace Bytes

/-- The bytes of a list of characters. -/
def ofChars (chars : List Char) : Bytes := chars.flatMap String.utf8EncodeChar

theorem ofChars_append (chars more : List Char) :
    ofChars (chars ++ more) = ofChars chars ++ ofChars more := List.flatMap_append

theorem ofChars_cons (c : Char) (chars : List Char) :
    ofChars (c :: chars) = String.utf8EncodeChar c ++ ofChars chars := List.flatMap_cons

theorem ofString_ofList (chars : List Char) : ofString (String.ofList chars) = ofChars chars := by
  rw [ofString, String.toList_ofList, ofChars]

end Bytes

namespace Json

namespace Text

variable {fuel : Nat} {b : UInt8} {c : Char} {bytes rest : Bytes}

/-! ## Bytes that stand for themselves -/

structure IsPlain (b : UInt8) : Prop where
  printable : 32 ≤ b.toNat
  ne_quote : b ≠ byte '"'
  ne_backslash : b ≠ byte '\\'

theorem isPlain_of_le (h : 128 ≤ b.toNat) : IsPlain b := by
  refine ⟨by omega, ?_, ?_⟩ <;>
  · rintro rfl
    exact absurd h (by decide)

theorem le_toNat_ofNat {n : Nat} (hlow : 128 ≤ n) (hhigh : n < 256) :
    128 ≤ (UInt8.ofNat n).toNat := by
  rwa [UInt8.toNat_ofNat', Nat.mod_eq_of_lt hhigh]

/-- An ASCII character is one byte, and the bytes of any other are beyond ASCII. -/
theorem eq_or_le_of_mem (hb : b ∈ String.utf8EncodeChar c) :
    (c.toNat < 128 ∧ b = UInt8.ofNat c.toNat) ∨ 128 ≤ b.toNat := by
  have hval : c.val.toNat = c.toNat := rfl
  simp only [String.utf8EncodeChar, hval] at hb
  split at hb
  · exact .inl ⟨by omega, List.mem_singleton.mp hb⟩
  right
  split at hb
  · simp only [List.mem_cons, List.not_mem_nil, or_false] at hb
    rcases hb with rfl | rfl <;> exact le_toNat_ofNat (by omega) (by omega)
  split at hb
  · simp only [List.mem_cons, List.not_mem_nil, or_false] at hb
    rcases hb with rfl | rfl | rfl <;> exact le_toNat_ofNat (by omega) (by omega)
  · simp only [List.mem_cons, List.not_mem_nil, or_false] at hb
    rcases hb with rfl | rfl | rfl | rfl <;> exact le_toNat_ofNat (by omega) (by omega)

theorem byte_ne {d : Char} (hc : c.toNat < 128) (hd : d.toNat < 128) (hne : c ≠ d) :
    UInt8.ofNat c.toNat ≠ byte d := by
  intro heq
  have hcodes := congrArg UInt8.toNat heq
  rw [byte, UInt8.toNat_ofNat', UInt8.toNat_ofNat', Nat.mod_eq_of_lt (by omega),
    Nat.mod_eq_of_lt (by omega)] at hcodes
  exact hne (Char.toNat_inj.mp hcodes)

theorem isPlain_of_mem (hc : 32 ≤ c.toNat) (hquote : c ≠ '"') (hbackslash : c ≠ '\\')
    (hb : b ∈ String.utf8EncodeChar c) : IsPlain b := by
  rcases eq_or_le_of_mem hb with ⟨hascii, rfl⟩ | hbeyond
  · refine ⟨?_, byte_ne hascii (by decide) hquote, byte_ne hascii (by decide) hbackslash⟩
    rwa [UInt8.toNat_ofNat', Nat.mod_eq_of_lt (by omega)]
  · exact isPlain_of_le hbeyond

/-! ## The body of a string -/

/-- The body goes on with `bytes`, and then as it does after them. -/
def Yields (written bytes : Bytes) : Prop :=
  ∀ rest fuel, (written ++ rest).length < fuel → ∃ fuel', rest.length < fuel' ∧
    body fuel (written ++ rest) = (body fuel' rest).map fun p => (bytes ++ p.1, p.2)

theorem yields_plain (h : ∀ b ∈ bytes, IsPlain b) : Yields bytes bytes := by
  induction bytes with
  | nil =>
    intro rest fuel hfuel
    refine ⟨fuel, hfuel, ?_⟩
    simp only [List.nil_append]
    cases body fuel rest <;> rfl
  | cons b bytes ih =>
    intro rest fuel hfuel
    obtain ⟨hb, hbytes⟩ := List.forall_mem_cons.mp h
    cases fuel with
    | zero => simp at hfuel
    | succ fuel =>
      obtain ⟨fuel', hfuel', heq⟩ := ih hbytes rest fuel (by simp at hfuel ⊢; omega)
      refine ⟨fuel', hfuel', ?_⟩
      have hcontrol : ¬ b < 32 := by
        rw [UInt8.lt_iff_toNat_lt]
        have hprintable := hb.printable
        simp
        omega
      rw [List.cons_append, body, if_neg (by simpa using hb.ne_quote),
        if_neg (by simpa using hb.ne_backslash), if_neg hcontrol, heq]
      cases body fuel' rest <;> rfl

theorem yields_escape {code : Bytes} (h : ∀ rest, escape (code ++ rest) = .ok (bytes, rest)) :
    Yields (byte '\\' :: code) bytes := by
  intro rest fuel hfuel
  cases fuel with
  | zero => simp at hfuel
  | succ fuel =>
    refine ⟨fuel, by simp at hfuel; omega, ?_⟩
    rw [List.cons_append, body, if_neg (by decide), if_pos (by decide), h]
    cases hbody : body fuel rest <;> simp [bind, Except.bind, Except.map, hbody]

theorem encodeChar_of_plain (hc : 32 ≤ c.toNat) (hquote : c ≠ '"') (hbackslash : c ≠ '\\') :
    encodeChar c = [c] := by
  unfold encodeChar
  split <;> first | contradiction | skip
  rw [if_neg (by omega)]

theorem yields_control (hc : c.toNat < 32) :
    Yields (Bytes.ofChars (encodeChar c)) (String.utf8EncodeChar c) := by
  obtain ⟨n, hn, rfl⟩ : ∃ n, n < 32 ∧ c = Char.ofNat n := ⟨c.toNat, hc, c.ofNat_toNat.symm⟩
  clear hc
  interval_cases n <;> exact yields_escape fun _ => rfl

theorem yields_encodeChar (c : Char) :
    Yields (Bytes.ofChars (encodeChar c)) (String.utf8EncodeChar c) := by
  by_cases hquote : c = '"'
  · subst hquote
    exact yields_escape fun _ => rfl
  by_cases hbackslash : c = '\\'
  · subst hbackslash
    exact yields_escape fun _ => rfl
  by_cases hc : c.toNat < 32
  · exact yields_control hc
  · rw [encodeChar_of_plain (by omega) hquote hbackslash, Bytes.ofChars, List.flatMap_singleton]
    exact yields_plain fun _ => isPlain_of_mem (by omega) hquote hbackslash

theorem body_encoded (chars : List Char) :
    ∀ fuel, (Bytes.ofChars (chars.flatMap encodeChar) ++ byte '"' :: rest).length < fuel →
      body fuel (Bytes.ofChars (chars.flatMap encodeChar) ++ byte '"' :: rest) =
        .ok (Bytes.ofChars chars, rest) := by
  induction chars with
  | nil =>
    intro fuel hfuel
    cases fuel with
    | zero => simp at hfuel
    | succ fuel => rfl
  | cons c chars ih =>
    intro fuel hfuel
    rw [List.flatMap_cons, Bytes.ofChars_append, List.append_assoc] at hfuel ⊢
    obtain ⟨fuel', hfuel', heq⟩ := yields_encodeChar c _ fuel hfuel
    rw [heq, ih fuel' hfuel']
    rfl

theorem read_encoded (s : String) :
    read (Bytes.ofChars (s.toList.flatMap encodeChar) ++ byte '"' :: rest) = .ok (s, rest) := by
  simp only [read, body_encoded s.toList _ (Nat.lt_succ_self _), bind, Except.bind]
  have hstring : Bytes.toString? (Bytes.ofChars s.toList) = some s := Bytes.toString?_ofString s
  simp only [hstring]

end Text

/-! ## Written texts -/

/-- The bytes of the JSON string of a text. -/
def encoded (s : String) : Bytes := Bytes.ofChars (Text.encode s)

variable {rest : Bytes}

theorem encoded_append (s : String) (rest : Bytes) : ∃ more, encoded s ++ rest = byte '"' :: more ∧
    Text.read more = .ok (s, rest) := by
  refine ⟨_, ?_, Text.read_encoded s⟩
  rw [encoded, Text.encode, Bytes.ofChars_append, List.append_assoc]
  rfl

/-- A byte that is no blank is not skipped. -/
theorem skipBlanks_cons {b : UInt8} (h : isBlank b = false) : skipBlanks (b :: rest) = b :: rest :=
  List.dropWhile_cons_of_neg (by simp [h])

theorem Typed.text_encoded (s : String) (rest : Bytes) :
    Typed.text (encoded s ++ rest) = .ok (s, rest) := by
  obtain ⟨more, heq, hread⟩ := encoded_append s rest
  rw [heq, Typed.text, skipBlanks_cons (by decide)]
  exact hread

theorem parse_eq_ok_iff {α : Type} {read : Reader α} {x : α} {input : Bytes} :
    parse read input = .ok x ↔ ∃ rest, read input = .ok (x, rest) ∧ skipBlanks rest = [] := by
  unfold parse
  cases hread : read input with
  | error e => simp [bind, Except.bind]
  | ok p =>
    obtain ⟨y, rest⟩ := p
    cases hblanks : skipBlanks rest with
    | nil => simp [bind, Except.bind, hblanks]
    | cons b r => simp [bind, Except.bind, hblanks, haltOn]

/-- A text that was written is read back. -/
theorem parse_compact_text (s : String) :
    parse Typed.text (Bytes.ofString (Value.text s).compact) = .ok s := by
  have hwritten : Bytes.ofString (Value.text s).compact = encoded s ++ [] := by
    rw [Value.compact, Bytes.ofString_ofList, Value.write, encoded, List.append_nil]
  rw [hwritten]
  exact parse_eq_ok_iff.mpr ⟨[], Typed.text_encoded s [], rfl⟩

end Json

end MarketData
