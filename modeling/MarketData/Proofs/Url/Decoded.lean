import MarketData.Proofs.Request.Said
import MarketData.Proofs.Url.Percent

/-! Queries are read back. Escaped elements hold no separator, so that a query falls apart into its
parameters, and each of these into a key and the elements it was made of (`Query.read_query`). A key
holds the elements that were first put under it (`Params.get?_foldl_insert`), and URLs over the same
base that hold something else under some key differ. -/

namespace MarketData

/-- A parameter as it is asked for. -/
inductive Insertion
  | single (key value : String)
  | list (key : String) (elements : List String)

namespace Insertion

def key : Insertion → String
  | single key _ => key
  | list key _ => key

def elements : Insertion → List String
  | single _ value => [value]
  | list _ elements => elements

def param : Insertion → Except UrlFault Param
  | single key value => Param.single key value
  | list key elements => Param.list key elements

/-- The elements first put under a key. -/
def first (insertions : List Insertion) (key : String) : Option (List String) :=
  (insertions.find? (·.key = key)).map elements

end Insertion

/-- The value of a parameter. -/
def codeElements (elements : List String) : String :=
  ",".intercalate (elements.map Percent.encode)

namespace Query

def readPair (text : List Char) : Option (String × List String) := do
  let (key, value) := Url.saidPair text
  let elements ← (value.toList.splitOn ',').mapM fun code => Percent.decode (String.ofList code)
  return (key, elements)

/-- The parameters of a query: keys as they stand, elements percent-decoded. -/
def read (query : String) : Option (List (String × List String)) :=
  (query.toList.splitOn '&').mapM readPair

end Query

/-! ## What is held under a key -/

theorem Insertion.param_eq_ok_iff {i : Insertion} {p : Param} : i.param = .ok p ↔
    i.key ≠ "" ∧ i.elements ≠ [] ∧ (∀ x ∈ i.elements, x ≠ "") ∧
      p = ⟨i.key, codeElements i.elements⟩ := by
  cases i with
  | single key value =>
    rw [param, Param.single_eq_ok_iff]
    simp [Insertion.key, elements, codeElements]
  | list key elements => exact Param.list_eq_ok_iff

theorem Params.get?_foldl_insert (params : Params) (ps : List Param) (key : String) :
    (ps.foldl Params.insert params).values.get? key =
      (params.values.get? key).or ((ps.find? (·.key = key)).map (·.value)) := by
  induction ps generalizing params with
  | nil => simp
  | cons p ps ih =>
    rw [List.foldl_cons, ih, get?_insert, List.find?_cons]
    by_cases hkey : p.key = key
    · subst hkey
      cases params.values.get? p.key <;> simp
    · have hne : ¬(key = p.key ∧ params.values.get? p.key = none) := fun h => hkey h.1.symm
      simp [hkey, hne]

theorem get?_insertions {insertions : List Insertion} {ps : List Param}
    (hmade : insertions.mapM Insertion.param = .ok ps) (key : String) :
    (ps.foldl Params.insert .empty).values.get? key =
      (Insertion.first insertions key).map codeElements := by
  rw [Params.get?_foldl_insert, Params.get?_empty, Option.none_or, Insertion.first]
  rw [Steps.mapM_eq_ok_iff] at hmade
  induction insertions generalizing ps with
  | nil =>
    obtain rfl : ps = [] := by simpa using hmade.symm
    rfl
  | cons i insertions ih =>
    cases ps with
    | nil => contradiction
    | cons p ps =>
      obtain ⟨hi, hrest⟩ := List.cons.inj hmade
      obtain ⟨-, -, -, rfl⟩ := Insertion.param_eq_ok_iff.mp hi
      rw [List.find?_cons, List.find?_cons]
      by_cases hkey : i.key = key
      · simp [hkey]
      · simpa [hkey] using ih hrest

/-! ## Reading -/

theorem mapM_eq_some_of_forall {α β : Type} {f : α → Option β} {g : α → β} {xs : List α}
    (h : ∀ x ∈ xs, f x = some (g x)) : xs.mapM f = some (xs.map g) := by
  induction xs with
  | nil => rfl
  | cons x xs ih =>
    obtain ⟨hx, hxs⟩ := List.forall_mem_cons.mp h
    rw [List.mapM_cons, hx, ih hxs]
    rfl

theorem comma_not_mem_encode (s : String) : ',' ∉ (Percent.encode s).toList := by
  intro hmem
  rw [Percent.encode, String.toList_ofList] at hmem
  obtain ⟨d, -, hd⟩ := List.mem_flatMap.mp hmem
  have hcomma := Percent.isPlain_of_mem_encodeChar hd
  revert hcomma
  decide

/-- The commas of a value stand between its elements only. -/
theorem splitOn_codeElements {elements : List String} (hne : elements ≠ []) :
    (codeElements elements).toList.splitOn ',' =
      elements.map fun x => (Percent.encode x).toList := by
  rw [codeElements, String.toList_intercalate, List.map_map]
  apply List.splitOn_intercalate
  · intro code hcode
    obtain ⟨x, -, rfl⟩ := List.mem_map.mp hcode
    exact comma_not_mem_encode x
  · simpa using hne

namespace Query

theorem readPair_codeElements {key : String} {elements : List String}
    (hkey : '=' ∉ key.toList) (hne : elements ≠ []) :
    readPair (key.toList ++ '=' :: (codeElements elements).toList) = some (key, elements) := by
  have helements : (elements.map fun x => (Percent.encode x).toList).mapM
      (fun code => Percent.decode (String.ofList code)) = some elements := by
    rw [List.mapM_map]
    refine (mapM_eq_some_of_forall (g := id) fun x _ => ?_).trans (by rw [List.map_id])
    rw [Function.comp_apply, String.ofList_toList]
    exact Percent.decode_encode x
  rw [readPair, Url.saidPair_text hkey]
  simp only [splitOn_codeElements hne, helements]
  rfl

/-- A query of coded elements is read back key by key. -/
theorem read_query {params : Params} {held : SortedMap String (List String)}
    (hcoded : params.values = held.mapValues fun _ => codeElements) (hne : held.entries ≠ [])
    (hkeys : ∀ key elements, held.get? key = some elements →
      '&' ∉ key.toList ∧ '=' ∉ key.toList ∧ elements ≠ []) :
    read params.query = some held.entries := by
  have hentries : params.entries = held.entries.map fun p => (p.1, codeElements p.2) := by
    rw [Params.entries, hcoded]
    rfl
  have hkey : ∀ p ∈ held.entries, '&' ∉ p.1.toList ∧ '=' ∉ p.1.toList ∧ p.2 ≠ [] := by
    intro p hp
    exact hkeys p.1 p.2 (SortedMap.mem_entries.mp hp)
  have hsplit : params.query.toList.splitOn '&' =
      held.entries.map fun p => p.1.toList ++ '=' :: (codeElements p.2).toList := by
    rw [Params.splitOn_query, hentries, List.map_map]
    · rfl
    · simpa [hentries] using hne
    · rw [hentries]
      intro p' hp'
      obtain ⟨p, hp, rfl⟩ := List.mem_map.mp hp'
      have hvalue := (Word.list p.2).not_mem (c := '&') (by decide)
      simp only [List.mem_append, List.mem_cons, Char.reduceEq, false_or, not_or]
      exact ⟨(hkey p hp).1, hvalue⟩
  rw [read, hsplit, List.mapM_map]
  refine (mapM_eq_some_of_forall (g := id) fun p hp => ?_).trans (by rw [List.map_id])
  obtain ⟨-, hequals, helements⟩ := hkey p hp
  exact readPair_codeElements hequals helements

end Query

/-- The URL is the base, followed by a query that is read as these elements, unless there are
none. -/
structure Url.ReadsAs (base : String) (url : Url) (held : SortedMap String (List String)) :
    Prop where
  alone : held.entries = [] → url.text = base
  read : held.entries ≠ [] →
    ∃ query, url.text = base ++ "?" ++ query ∧ Query.read query = some held.entries

/-- Over one base, a URL is read in one way only. -/
theorem Url.ReadsAs.unique {base : String} {url : Url} {held held' : SortedMap String (List String)}
    (r : url.ReadsAs base held) (r' : url.ReadsAs base held') : held = held' := by
  have hlonger : ∀ query, base ≠ base ++ "?" ++ query := by
    intro query heq
    have hlength := congrArg String.length heq
    rw [String.length_append, String.length_append, show "?".length = 1 from rfl] at hlength
    omega
  have hentries : held.entries = held'.entries := by
    by_cases h : held.entries = [] <;> by_cases h' : held'.entries = []
    · rw [h, h']
    · obtain ⟨query', htext', -⟩ := r'.read h'
      exact absurd ((r.alone h).symm.trans htext') (hlonger query')
    · obtain ⟨query, htext, -⟩ := r.read h
      exact absurd ((r'.alone h').symm.trans htext) (hlonger query)
    · obtain ⟨query, htext, hread⟩ := r.read h
      obtain ⟨query', htext', hread'⟩ := r'.read h'
      rw [htext, String.append_right_inj] at htext'
      rw [htext', hread'] at hread
      exact (Option.some.inj hread).symm
  apply SortedMap.ext_get?
  intro key
  rw [SortedMap.get?, SortedMap.get?, hentries]

/-! ## URLs of insertions -/

/-- The key of the insertion does not hold what separates keys. -/
def Insertion.Separable (i : Insertion) : Prop := '&' ∉ i.key.toList ∧ '=' ∉ i.key.toList

instance : DecidablePred Insertion.Separable :=
  fun i => inferInstanceAs (Decidable ('&' ∉ i.key.toList ∧ '=' ∉ i.key.toList))

section

variable {insertions : List Insertion} {ps : List Param}

/-- What was first put under each key, as a map. -/
theorem held_of_insertions (hmade : insertions.mapM Insertion.param = .ok ps) :
    ∃ held : SortedMap String (List String),
      (∀ key, held.get? key = Insertion.first insertions key) ∧
      (ps.foldl Params.insert .empty).values = held.mapValues fun _ => codeElements := by
  have hheld : ∀ key, ((ps.foldl Params.insert .empty).values.mapValues fun key _ =>
      (Insertion.first insertions key).getD []).get? key = Insertion.first insertions key := by
    intro key
    rw [SortedMap.get?_mapValues, get?_insertions hmade]
    cases Insertion.first insertions key <;> rfl
  refine ⟨_, hheld, SortedMap.ext_get? fun key => ?_⟩
  rw [SortedMap.get?_mapValues, hheld, get?_insertions hmade]

theorem mem_of_first_eq_some {key : String} {elements : List String}
    (h : Insertion.first insertions key = some elements) :
    ∃ i ∈ insertions, i.key = key ∧ i.elements = elements := by
  obtain ⟨i, hfind, rfl⟩ := Option.map_eq_some_iff.mp h
  exact ⟨i, List.mem_of_find?_eq_some hfind, by simpa using List.find?_some hfind, rfl⟩

/-- Nothing is held if and only if nothing was put in. -/
theorem entries_eq_nil_iff {held : SortedMap String (List String)}
    (hheld : ∀ key, held.get? key = Insertion.first insertions key) :
    held.entries = [] ↔ insertions = [] := by
  constructor
  · intro hentries
    cases insertions with
    | nil => rfl
    | cons i insertions =>
      have hget := hheld i.key
      rw [SortedMap.get?, hentries] at hget
      simp [Entries.find?, Insertion.first] at hget
  · rintro rfl
    rw [List.eq_nil_iff_forall_not_mem]
    intro e he
    have hget := SortedMap.mem_entries.mp (show (e.1, e.2) ∈ held.entries from he)
    rw [hheld] at hget
    contradiction

theorem readsAs_of_insertions {base : String} (hbase : base ≠ "")
    (hmade : insertions.mapM Insertion.param = .ok ps)
    (hkeys : ∀ i ∈ insertions, i.Separable) :
    ∃ url held, Url.withParams base (ps.foldl Params.insert .empty) = .ok url ∧
      (∀ key, held.get? key = Insertion.first insertions key) ∧ url.ReadsAs base held := by
  obtain ⟨held, hheld, hcoded⟩ := held_of_insertions hmade
  have hisEmpty : (ps.foldl Params.insert .empty).isEmpty = held.entries.isEmpty := by
    rw [Params.isEmpty, hcoded, SortedMap.isEmpty, SortedMap.mapValues, List.isEmpty_map]
  have hparts : ∀ key elements, held.get? key = some elements →
      '&' ∉ key.toList ∧ '=' ∉ key.toList ∧ elements ≠ [] := by
    intro key elements hget
    obtain ⟨i, hi, rfl, rfl⟩ := mem_of_first_eq_some ((hheld key).symm.trans hget)
    obtain ⟨p, -, hp⟩ := Steps.exists_of_mem_left hmade hi
    obtain ⟨-, helements, -⟩ := Insertion.param_eq_ok_iff.mp hp
    exact ⟨(hkeys i hi).1, (hkeys i hi).2, helements⟩
  cases hempty : held.entries.isEmpty with
  | true =>
    have hnone := List.isEmpty_iff.mp hempty
    refine ⟨_, held, Url.withParams_of_isEmpty hbase (hisEmpty.trans hempty), hheld, ?_⟩
    exact ⟨fun _ => rfl, fun hne => absurd hnone hne⟩
  | false =>
    have hne := List.isEmpty_eq_false_iff.mp hempty
    refine ⟨_, held, Url.withParams_of_ne hbase (hisEmpty.trans hempty), hheld, ?_⟩
    exact ⟨fun hnone => absurd hnone hne, fun _ => ⟨_, rfl, Query.read_query hcoded hne hparts⟩⟩

end

/-- **URLs are decodable.** Over a base that is not empty, parameters that can be made and whose
keys hold no `&` and no `=` have a URL: the base alone if there are none, else the base and a query
that is read as the elements first put under each key, in key order. Parameters that hold something
else under some key have another URL. -/
theorem url_decodable {base : String} {insertions : List Insertion} {ps : List Param}
    (hbase : base ≠ "") (hmade : insertions.mapM Insertion.param = .ok ps)
    (hkeys : ∀ i ∈ insertions, i.Separable) :
    ∃ (url : Url) (held : SortedMap String (List String)),
      Url.withParams base (ps.foldl Params.insert .empty) = .ok url ∧
      (∀ key, held.get? key = Insertion.first insertions key) ∧
      (insertions = [] → url.text = base) ∧
      (insertions ≠ [] → ∃ query, url.text = base ++ "?" ++ query ∧
        Query.read query = some held.entries) ∧
      ∀ insertions' ps', insertions'.mapM Insertion.param = .ok ps' →
        (∀ i ∈ insertions', i.Separable) →
        Url.withParams base (ps'.foldl Params.insert .empty) = .ok url →
        Insertion.first insertions' = Insertion.first insertions := by
  obtain ⟨url, held, hurl, hheld, hreads⟩ := readsAs_of_insertions hbase hmade hkeys
  have hempty := entries_eq_nil_iff hheld
  refine ⟨url, held, hurl, hheld, ?_, ?_, ?_⟩
  · intro hnone
    exact hreads.alone (hempty.mpr hnone)
  · intro hne
    exact hreads.read (mt hempty.mp hne)
  · intro insertions' ps' hmade' hkeys' hurl'
    obtain ⟨url', held', hmake, hheld', hreads'⟩ := readsAs_of_insertions hbase hmade' hkeys'
    rw [hurl'] at hmake
    cases hmake
    obtain rfl : held' = held := hreads'.unique hreads
    funext key
    rw [← hheld, ← hheld']

/-! A value full of separators, one that comes too late, and a list under a key that is not
escaped. -/
namespace Separators

def insertions : List Insertion :=
  [.single "q" "a&b=c,%2Cé", .single "q" "late", .list "#%41" ["x,y", "€"]]

def params : List Param :=
  [⟨"q", "a%26b%3Dc%2C%252C%C3%A9"⟩, ⟨"q", "late"⟩, ⟨"#%41", "x%2Cy,%E2%82%AC"⟩]

end Separators

theorem url_decodable_separators :
    Separators.insertions.mapM Insertion.param = .ok Separators.params ∧
    (∀ i ∈ Separators.insertions, i.Separable) ∧
    ∃ (url : Url) (held : SortedMap String (List String)) (query : String),
      Url.withParams "http://a/" (Separators.params.foldl Params.insert .empty) = .ok url ∧
      url.text = "http://a/" ++ "?" ++ query ∧ Query.read query = some held.entries ∧
      held.get? "q" = some ["a&b=c,%2Cé"] ∧ held.get? "#%41" = some ["x,y", "€"] := by
  have hmade : Separators.insertions.mapM Insertion.param = .ok Separators.params := rfl
  have hkeys : ∀ i ∈ Separators.insertions, i.Separable := by decide
  obtain ⟨url, held, hurl, hheld, -, hread, -⟩ :=
    url_decodable (show "http://a/" ≠ "" by decide) hmade hkeys
  obtain ⟨query, htext, hquery⟩ := hread (by decide)
  exact ⟨hmade, hkeys, url, held, query, hurl, htext, hquery, hheld "q", hheld "#%41"⟩

end MarketData
