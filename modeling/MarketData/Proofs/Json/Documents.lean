import Mathlib
import MarketData.Batch.Results
import MarketData.Proofs.Json.Sequences
import MarketData.Proofs.SortedMap

/-! A document that was read and is written in either format is read back (`document_rereads`): the
writer spells values as `Value.read` takes them (`Value.Made.spells`), provided their members are in
order and they nest no deeper than the reader goes, which holds of all that it gives
(`Value.made_of_read`). -/

namespace MarketData

namespace Json

/-! ## Blanks between the elements -/

namespace Format

variable (format : Format) (level : Nat)

/-- What stands after an opening bracket and after a comma. -/
def gap : Bytes := Bytes.ofChars (format.layout level).opening

/-- What stands before a closing bracket. -/
def closing : Bytes := Bytes.ofChars (format.layout level).closing

/-- What stands after the colon of a member. -/
def colonGap : Bytes :=
  match format with
  | .compact => []
  | .pretty => [byte ' ']

theorem blank_line (n : Nat) : Blank (Bytes.ofChars ('\n' :: List.replicate n ' ')) := by
  intro b hb
  obtain ⟨c, hc, hb⟩ := List.mem_flatMap.mp hb
  rcases List.mem_cons.mp hc with rfl | hc
  · obtain rfl : b = byte '\n' := List.mem_singleton.mp hb
    rfl
  · obtain rfl := List.eq_of_mem_replicate hc
    obtain rfl : b = byte ' ' := List.mem_singleton.mp hb
    rfl

theorem blank_gap : Blank (format.gap level) := by
  cases format with
  | pretty => exact blank_line _
  | compact => exact .nil

theorem blank_closing : Blank (format.closing level) := by
  cases format with
  | pretty => exact blank_line _
  | compact => exact .nil

theorem blank_colonGap : Blank format.colonGap := by
  cases format with
  | pretty =>
    intro b hb
    obtain rfl := List.mem_singleton.mp hb
    rfl
  | compact => exact .nil

theorem ofChars_comma :
    Bytes.ofChars (format.layout level).comma = byte ',' :: format.gap level := by
  cases format <;> rfl

theorem ofChars_colon :
    Bytes.ofChars (format.layout level).colon = byte ':' :: format.colonGap := by
  cases format <;> rfl

end Format

namespace Value

/-! ## What is written -/

variable (format : Format) (level : Nat)

/-- The bytes of a value. -/
def bytes (v : Value) : Bytes := Bytes.ofChars (v.write format level)

/-- The bytes of a member one level down. -/
def memberBytes (m : String × Value) : Bytes :=
  encoded m.1 ++ byte ':' :: (format.colonGap ++ m.2.bytes format (level + 1))

theorem ofChars_writeItems (xs : List Value) : Bytes.ofChars (writeItems format level xs) =
    Bracket.spellMore (format.gap level) (bytes format (level + 1)) xs := by
  induction xs with
  | nil => rfl
  | cons x xs ih =>
    rw [writeItems, Bytes.ofChars_append, Bytes.ofChars_append, format.ofChars_comma, ih,
      ← bytes, Bracket.spellMore, Bracket.spellMore, List.flatMap_cons, List.cons_append]

theorem ofChars_writeMembers (ms : List (String × Value)) :
    Bytes.ofChars (writeMembers format level ms) =
      Bracket.spellMore (format.gap level) (memberBytes format level) ms := by
  induction ms with
  | nil => rfl
  | cons m ms ih =>
    rw [writeMembers]
    simp only [Bytes.ofChars_append, format.ofChars_comma, format.ofChars_colon, ih,
      Bracket.spellMore, List.flatMap_cons, memberBytes, encoded, bytes, List.cons_append,
      List.append_assoc]

theorem bytes_array (xs : List Value) : (array xs).bytes format level =
    byte '[' :: Bracket.list.spellAll (format.gap level) (format.closing level)
      (bytes format (level + 1)) xs := by
  cases xs with
  | nil => rfl
  | cons x xs =>
    rw [bytes, write]
    simp only [List.cons_append, Bytes.ofChars_cons, Bytes.ofChars_append, ofChars_writeItems,
      Bracket.spellAll, bytes, Format.gap, Format.closing]
    rfl

theorem bytes_object (ms : List (String × Value)) : (object ms).bytes format level =
    byte '{' :: Bracket.object.spellAll (format.gap level) (format.closing level)
      (memberBytes format level) ms := by
  cases ms with
  | nil => rfl
  | cons m ms =>
    rw [bytes, write]
    simp only [List.cons_append, Bytes.ofChars_cons, Bytes.ofChars_append, ofChars_writeMembers,
      format.ofChars_colon, memberBytes, encoded, Bracket.spellAll, bytes, Format.gap,
      Format.closing, List.append_assoc]
    rfl

/-! ## What is read -/

/-- All numbers are whole, and 64 bits hold each of them, with a sign or without. -/
inductive IsWhole : Value → Prop
  | null : IsWhole .null
  | boolean (b : Bool) : IsWhole (.boolean b)
  | number {n : Int} (low : -(UInt64.size / 2 : Nat) ≤ n) (high : n < UInt64.size) :
    IsWhole (.number (.integer n))
  | text (s : String) : IsWhole (.text s)
  | array {xs : List Value} (h : ∀ x ∈ xs, IsWhole x) : IsWhole (.array xs)
  | object {ms : List (String × Value)} (h : ∀ m ∈ ms, IsWhole m.2) : IsWhole (.object ms)

/-- Members stand in order, and arrays and objects nest at most `depth` deep. -/
inductive Made : Nat → Value → Prop
  | null {depth : Nat} : Made depth .null
  | boolean {depth : Nat} (b : Bool) : Made depth (.boolean b)
  | number {depth : Nat} (n : Number) : Made depth (.number n)
  | text {depth : Nat} (s : String) : Made depth (.text s)
  | array {depth : Nat} {xs : List Value} (h : ∀ x ∈ xs, Made depth x) :
    Made (depth + 1) (.array xs)
  | object {depth : Nat} {ms : List (String × Value)} (sorted : Entries.Sorted ms)
    (h : ∀ m ∈ ms, Made depth m.2) : Made (depth + 1) (.object ms)

theorem eq_of_map {α β : Type} {e : Except Halt α} {f : α → β} {y : β} (h : e.map f = .ok y) :
    ∃ x, e = .ok x ∧ f x = y := by
  cases e with
  | error e => cases h
  | ok x => exact ⟨x, rfl, Except.ok.inj h⟩

theorem made_of_map {α : Type} {e : Except Halt α} {f : α → Value × Bytes} {depth : Nat}
    {v : Value} {r : Bytes} (h : e.map f = .ok (v, r)) (hmade : ∀ x, Made depth (f x).1) :
    Made depth v := by
  obtain ⟨x, -, heq⟩ := eq_of_map h
  have hx := hmade x
  rwa [heq] at hx

/-- The value of a member is read like any other. -/
theorem gives_of_member {read : Reader Value} {m : String × Value}
    (h : Bracket.Gives (member read) m) : Bracket.Gives read m.2 := by
  obtain ⟨rest, r, h⟩ := h
  cases rest with
  | nil => cases h
  | cons b rest =>
    rw [member] at h
    split at h
    · obtain ⟨key, -, h⟩ := Steps.bind_eq_ok_iff.mp h
      obtain ⟨r', -, h⟩ := Steps.bind_eq_ok_iff.mp h
      obtain ⟨value, hread, h⟩ := Steps.bind_eq_ok_iff.mp h
      cases h
      exact ⟨r', value.2, hread⟩
    · cases h

theorem made_ofMembers {depth : Nat} {ms : List (String × Value)} (h : ∀ m ∈ ms, Made depth m.2) :
    Made (depth + 1) (ofMembers ms) := by
  refine .object (Entries.foldl_set_sorted .nil) fun m hm => ?_
  rcases Entries.mem_foldl_set hm with hm | hm
  · exact h m hm
  · cases hm

/-- What a reader with `inner` for elements gives is made of what `inner` gives. -/
theorem made_of_readWith {inner : Option (Reader Value)} {depth : Nat} {v : Value}
    (hinner : ∀ read, inner = some read → ∃ depth', depth = depth' + 1 ∧
      ∀ x, Bracket.Gives read x → Made depth' x)
    (h : Bracket.Gives (readWith inner) v) : Made depth v := by
  obtain ⟨rest, r, h⟩ := h
  simp only [readWith] at h
  split at h
  · cases h
  split at h
  · exact made_of_map h fun _ => .null
  split at h
  · exact made_of_map h fun _ => .boolean true
  split at h
  · exact made_of_map h fun _ => .boolean false
  split at h
  · exact made_of_map h fun _ => .number _
  split at h
  · exact made_of_map h fun _ => .number _
  split at h
  · exact made_of_map h fun _ => .text _
  split at h
  · split at h
    · cases h
    · rename_i read
      obtain ⟨⟨xs, _⟩, hitems, heq⟩ := eq_of_map h
      cases heq
      obtain ⟨depth', rfl, hmade⟩ := hinner read rfl
      rw [Bracket.items_eq] at hitems
      exact .array fun x hx => hmade x (Bracket.mem_of_sequence hitems x hx)
  split at h
  · split at h
    · cases h
    · rename_i read
      obtain ⟨⟨ms, _⟩, hmembers, heq⟩ := eq_of_map h
      cases heq
      obtain ⟨depth', rfl, hmade⟩ := hinner read rfl
      rw [Bracket.members_eq] at hmembers
      exact made_ofMembers fun m hm =>
        hmade m.2 (gives_of_member (Bracket.mem_of_sequence hmembers m hm))
  · cases h

theorem made_of_read {depth : Nat} {v : Value} (h : Bracket.Gives (read depth) v) :
    Made depth v := by
  induction depth generalizing v with
  | zero =>
    refine made_of_readWith (fun read hread => ?_) h
    cases hread
  | succ depth ih =>
    refine made_of_readWith (fun read hread => ⟨depth, rfl, fun x hx => ?_⟩) h
    cases hread
    exact ih hx

/-! ## What is written is read back -/

section Spelling

variable {inner : Option (Reader Value)} {depth : Nat} {b : UInt8} {rest : Bytes}

/-- A digit is no other character. -/
theorem beq_of_isDigit (h : isDigit b = true) {c : Char} (hc : isDigit (byte c) = false) :
    (b == byte c) = false := by
  refine beq_eq_false_iff_ne.mpr ?_
  rintro rfl
  rw [h] at hc
  contradiction

theorem opens_of_isDigit (h : isDigit b = true) : opens b = true := by
  have hne (c : Char) (hc : isDigit (byte c) = false) := beq_of_isDigit h hc
  simp only [opens, isBlank, bne, hne ' ' rfl, hne '\t' rfl, hne '\n' rfl, hne '\r' rfl,
    hne ']' rfl, hne '}' rfl]
  rfl

theorem readWith_digit (h : isDigit b = true) : readWith inner (b :: rest) =
    (Number.read false (b :: rest)).map fun p => (.number p.1, p.2) := by
  have hne (c : Char) (hc : isDigit (byte c) = false) := beq_of_isDigit h hc
  have hskip : skipBlanks (b :: rest) = b :: rest :=
    skipBlanks_cons (isBlank_of_opens (opens_of_isDigit h))
  simp only [readWith, hskip, hne 'n' rfl, hne 't' rfl, hne 'f' rfl, hne '-' rfl, h,
    Bool.false_eq_true, if_false, if_true]

theorem spells_natural {n : Nat} (h : n ≤ Number.largest) :
    Spells (readWith inner) (Number.digits n) (.number (.integer n)) := by
  obtain ⟨b, more, heq⟩ : ∃ b more, Number.digits n = b :: more :=
    List.exists_cons_of_ne_nil (by simp [Number.digits])
  have hdigit : isDigit b = true := Number.isDigit_of_mem_digits (n := n) (by simp [heq])
  refine ⟨⟨b, more, heq, opens_of_isDigit hdigit⟩, fun rest hrest => ?_⟩
  have hread : Number.read false (Number.digits n ++ rest) = .ok (.integer n, rest) :=
    Number.read_digits h hrest
  rw [heq, List.cons_append] at hread ⊢
  rw [readWith_digit hdigit, hread]
  rfl

theorem spells_negative {n : Nat} (hpos : n ≠ 0) (h : n ≤ UInt64.size / 2) :
    Spells (readWith inner) (byte '-' :: Number.digits n) (.number (.integer (-n))) := by
  refine ⟨⟨_, _, rfl, rfl⟩, fun rest hrest => ?_⟩
  have hlargest : n ≤ Number.largest := Nat.le_trans h (by decide)
  have hread : Number.read true (Number.digits n ++ rest) = .ok (.integer (-n), rest) := by
    rw [Number.read_digits hlargest hrest, Number.ofWhole, if_neg (by decide),
      if_neg (by omega)]
  have hwith : readWith inner (byte '-' :: (Number.digits n ++ rest)) =
      (Number.read true (Number.digits n ++ rest)).map fun p => (.number p.1, p.2) := rfl
  rw [List.cons_append, hwith, hread]
  rfl

theorem spells_integer {n : Int} (low : -(UInt64.size / 2 : Nat) ≤ n) (high : n < UInt64.size) :
    Spells (readWith inner) (Bytes.ofChars (Number.integer n).text.toList)
      (.number (.integer n)) := by
  cases n with
  | ofNat n =>
    have htext : (Number.integer (.ofNat n)).text.toList = Nat.toDigits 10 n := Nat.toList_repr
    rw [htext, Number.ofChars_toDigits]
    exact spells_natural (Nat.le_sub_one_of_lt (Int.ofNat_lt.mp high))
  | negSucc n =>
    have htext : (Number.integer (.negSucc n)).text.toList = '-' :: Nat.toDigits 10 (n + 1) := by
      have happend : (Number.integer (.negSucc n)).text = "-" ++ Nat.repr (n + 1) := rfl
      rw [happend, String.toList_append, Nat.toList_repr]
      rfl
    rw [htext, Bytes.ofChars_cons, Number.ofChars_toDigits]
    exact spells_negative (Nat.succ_ne_zero n) (by omega)

theorem spells_text (s : String) : Spells (readWith inner) (encoded s) (.text s) := by
  obtain ⟨more, heq, -⟩ := encoded_append s []
  rw [List.append_nil] at heq
  refine ⟨⟨_, more, heq, rfl⟩, fun rest _ => ?_⟩
  obtain ⟨more, heq, hread⟩ := encoded_append s rest
  have hwith : readWith inner (byte '"' :: more) =
      (Text.read more).map fun p => (.text p.1, p.2) := rfl
  rw [heq, hwith, hread]
  rfl

theorem read_append_blank {gap bytes : Bytes} (h : Blank gap) :
    read depth (gap ++ bytes) = read depth bytes := by
  cases depth <;> simp only [read, readWith, skipBlanks_append h]

theorem spells_member {written gap : Bytes} {v : Value} (hgap : Blank gap) (key : String)
    (h : Spells (read depth) written v) :
    Spells (member (read depth)) (encoded key ++ byte ':' :: (gap ++ written)) (key, v) := by
  constructor
  · obtain ⟨more, heq, -⟩ := encoded_append key (byte ':' :: (gap ++ written))
    exact ⟨_, more, heq, rfl⟩
  · intro rest hrest
    obtain ⟨more, heq, hkey⟩ := encoded_append key (byte ':' :: (gap ++ (written ++ rest)))
    have hcolon : colon (byte ':' :: (gap ++ (written ++ rest))) =
      .ok (gap ++ (written ++ rest)) := rfl
    have hvalue : read depth (gap ++ (written ++ rest)) = .ok (v, rest) := by
      rw [read_append_blank hgap, h.reads rest hrest]
    rw [List.append_assoc, List.cons_append, List.append_assoc, heq, member,
      if_pos (by decide), hkey]
    simp only [bind, Except.bind, hcolon, hvalue]

theorem ofMembers_of_sorted {ms : List (String × Value)} (h : Entries.Sorted ms) :
    ofMembers ms = .object ms := congrArg Value.object (Entries.foldl_set_of_sorted h)

variable {format : Format} {level : Nat} {xs : List Value} {ms : List (String × Value)}

/-- A value without elements is read at any depth. -/
theorem spells_of_readWith {written : Bytes} {v : Value}
    (h : ∀ inner, Spells (readWith inner) written v) : Spells (read depth) written v := by
  cases depth with
  | zero => exact h none
  | succ depth => exact h (some (read depth))

theorem spells_array (h : ∀ x ∈ xs, Spells (read depth) (bytes format (level + 1) x) x) :
    Spells (read (depth + 1)) (bytes format level (.array xs)) (.array xs) := by
  rw [bytes_array]
  refine ⟨⟨_, _, rfl, rfl⟩, fun rest _ => ?_⟩
  have hread (r : Bytes) : read (depth + 1) (byte '[' :: r) =
    (items (read depth) r).map fun p => (.array p.1, p.2) := rfl
  have hitems := Bracket.list.sequence_spelled (format.blank_gap level)
    (format.blank_closing level) h rest
  rw [List.cons_append, hread, Bracket.items_eq, hitems]
  rfl

theorem spells_object (sorted : Entries.Sorted ms)
    (h : ∀ m ∈ ms, Spells (read depth) (bytes format (level + 1) m.2) m.2) :
    Spells (read (depth + 1)) (bytes format level (.object ms)) (.object ms) := by
  have hmember : ∀ m ∈ ms, Spells (member (read depth)) (memberBytes format level m) m :=
    fun m hm => spells_member format.blank_colonGap m.1 (h m hm)
  rw [bytes_object]
  refine ⟨⟨_, _, rfl, rfl⟩, fun rest _ => ?_⟩
  have hread (r : Bytes) : read (depth + 1) (byte '{' :: r) =
    (members (read depth) r).map fun p => (ofMembers p.1, p.2) := rfl
  have hmembers := Bracket.object.sequence_spelled (format.blank_gap level)
    (format.blank_closing level) hmember rest
  rw [List.cons_append, hread, Bracket.members_eq, hmembers]
  simp only [Except.map, ofMembers_of_sorted sorted]

/-- A value that a reader can give is written so that the reader gives it. -/
theorem Made.spells {v : Value} (hmade : Made depth v) (hwhole : IsWhole v) (format : Format)
    (level : Nat) : Spells (read depth) (bytes format level v) v := by
  induction hmade generalizing level with
  | null =>
    exact spells_of_readWith fun inner =>
      ⟨⟨byte 'n', _, rfl, rfl⟩, fun _ _ => rfl⟩
  | boolean b =>
    refine spells_of_readWith fun inner => ?_
    cases b with
    | false => exact ⟨⟨byte 'f', _, rfl, rfl⟩, fun _ _ => rfl⟩
    | true => exact ⟨⟨byte 't', _, rfl, rfl⟩, fun _ _ => rfl⟩
  | number n =>
    rcases hwhole with _ | _ | ⟨low, high⟩
    rw [bytes, write]
    exact spells_of_readWith fun inner => spells_integer low high
  | text s =>
    rw [bytes, write]
    exact spells_of_readWith fun inner => spells_text s
  | array h ih =>
    rcases hwhole with _ | _ | _ | _ | hwhole
    exact spells_array fun x hx => ih x hx (hwhole x hx) (level + 1)
  | object sorted h ih =>
    rcases hwhole with _ | _ | _ | _ | _ | hwhole
    exact spells_object sorted fun m hm => ih m hm (hwhole m hm) (level + 1)

end Spelling

/-! ## Whole texts -/

theorem made_of_parse {input : Bytes} {v : Value} (h : Value.parse input = .ok v) :
    Made deepest v := by
  obtain ⟨rest, hread, -⟩ := parse_eq_ok_iff.mp h
  exact made_of_read ⟨input, rest, hread⟩

theorem ofString_document (format : Format) (v : Value) :
    Bytes.ofString (v.document format) = v.bytes format 0 ++ [byte '\n'] := by
  rw [document, Bytes.ofString, String.toList_append, String.toList_ofList, List.flatMap_append]
  rfl

theorem parse_document {v : Value} (hmade : Made deepest v) (hwhole : IsWhole v)
    (format : Format) : Value.parse (Bytes.ofString (v.document format)) = .ok v := by
  have hread := (hmade.spells hwhole format 0).reads [byte '\n'] ⟨rfl, by decide, rfl⟩
  rw [ofString_document]
  exact parse_eq_ok_iff.mpr ⟨_, hread, rfl⟩

end Value

/-! ## Lists of texts -/

theorem Typed.spells_text (s : String) : Spells Typed.text (encoded s) s := by
  obtain ⟨more, heq, -⟩ := encoded_append s []
  rw [List.append_nil] at heq
  exact ⟨⟨_, more, heq, rfl⟩, fun rest _ => Typed.text_encoded s rest⟩

/-- Texts that were written as a list are read back. -/
theorem parse_compact_texts (texts : List String) :
    parse (Typed.list Typed.text) (Bytes.ofString (Value.array (texts.map .text)).compact) =
      .ok texts := by
  have hwritten : Bytes.ofString (Value.array (texts.map .text)).compact =
      byte '[' :: Bracket.list.spellAll [] [] encoded texts := by
    rw [Value.compact, Bytes.ofString_ofList]
    exact (Value.bytes_array .compact 0 _).trans
      (congrArg _ (Bracket.spellAll_map .list [] [] (Value.bytes .compact 1) .text texts))
  have hlist (r : Bytes) : Typed.list Typed.text (byte '[' :: r) = items Typed.text r := rfl
  have hitems := Bracket.list.sequence_spelled .nil .nil
    (fun s (_ : s ∈ texts) => Typed.spells_text s) []
  rw [List.append_nil] at hitems
  rw [hwritten]
  exact parse_eq_ok_iff.mpr ⟨[], by rw [hlist, Bracket.items_eq, hitems], rfl⟩

end Json

/-! ## Bodies -/

open Json

theorem Entry.ofBody_eq_ok_iff {body : Bytes} {v : Value} :
    Entry.ofBody body = .ok v ↔ body ≠ [] ∧ Value.parse body = .ok v := by
  unfold Entry.ofBody
  cases body with
  | nil => simp
  | cons b body => cases Value.parse (b :: body) <;> simp

theorem Entry.ofBody_document {v : Value} (hmade : v.Made Value.deepest) (hwhole : v.IsWhole)
    (format : Format) : Entry.ofBody (Bytes.ofString (v.document format)) = .ok v := by
  refine Entry.ofBody_eq_ok_iff.mpr ⟨?_, Value.parse_document hmade hwhole format⟩
  rw [Value.ofString_document]
  exact List.append_ne_nil_of_right_ne_nil _ (List.cons_ne_nil _ _)

/-- A document whose numbers are all whole is read back from what is written of it in either
format, so that it is the same document in both and is written again as it was. -/
theorem document_rereads (body : Bytes) (v : Value) (hbody : Entry.ofBody body = .ok v)
    (hwhole : v.IsWhole) (format : Format) :
    Entry.ofBody (Bytes.ofString (v.document format)) = .ok v ∧
      (∀ other, Entry.ofBody (Bytes.ofString (v.document other)) =
        Entry.ofBody (Bytes.ofString (v.document format))) ∧
      ∀ again, Entry.ofBody (Bytes.ofString (v.document format)) = .ok again →
        again.document format = v.document format := by
  have hmade := Value.made_of_parse (Entry.ofBody_eq_ok_iff.mp hbody).2
  have hread := Entry.ofBody_document hmade hwhole
  refine ⟨hread format, fun other => ?_, fun again hagain => ?_⟩
  · rw [hread other, hread format]
  · rw [hread format, Except.ok.injEq] at hagain
    rw [hagain]

namespace Rereading

/-- A key that comes twice, escapes, empty elements and the least and the greatest number. -/
def body : String :=
  " \x7b\"b\" : [ \x7b \x7d, [\n], \"\\u0041\\ud83d\\ude00\\u001f\\/\\\"é\" ],\r\n\t" ++
  "\"a\":-0,\"c\":-9223372036854775808, \"a\": 18446744073709551615, \"\": null\x7d "

def document : Value :=
  .object [("", .null), ("a", .number (.integer 18446744073709551615)),
    ("b", .array [.object [], .array [], .text "A😀\x1f/\"é"]),
    ("c", .number (.integer (-9223372036854775808)))]

theorem ofBody_body : Entry.ofBody (Bytes.ofString body) = .ok document := by cbv

theorem isWhole : document.IsWhole := by
  refine .object ?_
  simp only [List.forall_mem_cons]
  refine ⟨.null, .number (by decide) (by decide), .array ?_, .number (by decide) (by decide),
    fun _ h => nomatch h⟩
  simp only [List.forall_mem_cons]
  exact ⟨.object fun _ h => (nomatch h), .array fun _ h => (nomatch h), .text _,
    fun _ h => nomatch h⟩

end Rereading

theorem document_rereads_escaped : Entry.ofBody (Bytes.ofString Rereading.body) =
      .ok Rereading.document ∧ Rereading.document.IsWhole ∧
    Entry.ofBody (Bytes.ofString (Rereading.document.document .pretty)) =
      .ok Rereading.document :=
  ⟨Rereading.ofBody_body, Rereading.isWhole,
    (document_rereads _ _ Rereading.ofBody_body Rereading.isWhole .pretty).1⟩

end MarketData
