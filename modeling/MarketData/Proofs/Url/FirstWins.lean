import MarketData.Proofs.Url.Decoded

/-! Parameter sets made of pairs. The pairs are looked at one after the other, in each the key
before the value, and the first flaw is the fault of all (`Params.ofPairs_eq_error_iff`). Without a
flaw each key has the value that it came with first (`Params.firstWins_of_ofPairs`). So the set, and
the URL of a request with these options, shows the order of pairs with one key only
(`Reordered.foldl_insertPair_eq`). -/

namespace MarketData

/-- Why a pair makes no parameter; of two empty parts the key is told. -/
inductive Param.Flaw : String × String → UrlFault → Prop
  | emptyKey {value : String} : Flaw ("", value) .emptyParamKey
  | emptyValue {key : String} : key ≠ "" → Flaw (key, "") .emptyParamValue

/-- The fault of the first pair that makes no parameter. -/
inductive Params.FirstFlaw : List (String × String) → UrlFault → Prop
  | intro : (∀ earlier ∈ before, earlier.1 ≠ "" ∧ earlier.2 ≠ "") → Param.Flaw pair fault →
    FirstFlaw (before ++ pair :: after) fault

/-- The distinct keys of the pairs in the order of their code points, each with the code of the
value that it comes with first. -/
structure Params.FirstWins (pairs : List (String × String)) (params : Params) : Prop where
  increasing : params.entries.Pairwise fun a b => a.1.toList < b.1.toList
  mem_iff : ∀ key code, (key, code) ∈ params.entries ↔
    ∃ value, pairs.find? (·.1 = key) = some (key, value) ∧ code = Percent.encode value

/-- The same pairs in another order, those with one key still in the order they had. -/
structure Reordered (pairs pairs' : List (String × String)) : Prop where
  perm : pairs.Perm pairs'
  sameKey : ∀ key, pairs.filter (·.1 = key) = pairs'.filter (·.1 = key)

/-! ## Flaws -/

namespace Param

variable {key value : String} {fault : UrlFault}

theorem flaw_iff : Flaw (key, value) fault ↔
    key = "" ∧ fault = .emptyParamKey ∨ key ≠ "" ∧ value = "" ∧ fault = .emptyParamValue := by
  constructor
  · intro h
    cases h with
    | emptyKey => exact .inl ⟨rfl, rfl⟩
    | emptyValue hkey => exact .inr ⟨hkey, rfl, rfl⟩
  · rintro (⟨rfl, rfl⟩ | ⟨hkey, rfl, rfl⟩)
    · exact .emptyKey
    · exact .emptyValue hkey

theorem exists_flaw_iff : (∃ fault, Flaw (key, value) fault) ↔ key = "" ∨ value = "" := by
  simp only [flaw_iff]
  by_cases hkey : key = "" <;> simp [hkey]

theorem single_eq_error_iff : single key value = .error fault ↔ Flaw (key, value) fault := by
  rw [flaw_iff, single]
  by_cases hkey : key = ""
  · simp [hkey, @eq_comm _ fault]
  · by_cases hvalue : value = "" <;> simp [hkey, hvalue, @eq_comm _ fault]

end Param

namespace Params

variable {params : Params} {pair : String × String} {pairs : List (String × String)}
  {fault : UrlFault}

theorem not_firstFlaw_nil : ¬ FirstFlaw [] fault := by
  intro h
  generalize hall : ([] : List (String × String)) = all at h
  cases h
  simp at hall

theorem firstFlaw_cons : FirstFlaw (pair :: pairs) fault ↔
    Param.Flaw pair fault ∨ (pair.1 ≠ "" ∧ pair.2 ≠ "") ∧ FirstFlaw pairs fault := by
  constructor
  · intro h
    generalize hall : pair :: pairs = all at h
    cases h with
    | @intro before flawed fault after hbefore hflaw =>
      cases before with
      | nil =>
        obtain ⟨rfl, rfl⟩ := List.cons.inj hall
        exact .inl hflaw
      | cons first before =>
        obtain ⟨rfl, rfl⟩ := List.cons.inj hall
        obtain ⟨hfirst, hbefore⟩ := List.forall_mem_cons.mp hbefore
        exact .inr ⟨hfirst, .intro hbefore hflaw⟩
  · rintro (hflaw | ⟨hpair, hrest⟩)
    · have hfirst : FirstFlaw ([] ++ pair :: pairs) fault := .intro (by simp) hflaw
      exact hfirst
    · cases hrest with
      | @intro before flawed fault after hbefore hflaw =>
        rw [← List.cons_append]
        exact .intro (List.forall_mem_cons.mpr ⟨hpair, hbefore⟩) hflaw

theorem addPairs_eq_error_iff : params.addPairs pairs = .error fault ↔ FirstFlaw pairs fault := by
  induction pairs generalizing params with
  | nil =>
    refine iff_of_false ?_ not_firstFlaw_nil
    intro h
    cases h
  | cons pair pairs ih =>
    rw [addPairs_cons, Steps.bind_eq_error_iff, Param.single_eq_error_iff, firstFlaw_cons]
    simp only [Param.single_eq_ok_iff, ih]
    refine or_congr_right ?_
    constructor
    · rintro ⟨_, ⟨hkey, hvalue, -⟩, hrest⟩
      exact ⟨⟨hkey, hvalue⟩, hrest⟩
    · rintro ⟨⟨hkey, hvalue⟩, hrest⟩
      exact ⟨_, ⟨hkey, hvalue, rfl⟩, hrest⟩

theorem ofPairs_eq_error_iff : ofPairs pairs = .error fault ↔ FirstFlaw pairs fault :=
  addPairs_eq_error_iff

theorem exists_firstFlaw_iff : (∃ fault, FirstFlaw pairs fault) ↔
    ∃ pair ∈ pairs, pair.1 = "" ∨ pair.2 = "" := by
  induction pairs with
  | nil => simp [not_firstFlaw_nil]
  | cons pair pairs ih =>
    obtain ⟨key, value⟩ := pair
    simp only [firstFlaw_cons, exists_or, exists_and_left, ih, Param.exists_flaw_iff,
      List.exists_mem_cons_iff, ne_eq, ← not_or]
    constructor
    · rintro (hflawed | ⟨-, hlater⟩)
      · exact .inl hflawed
      · exact .inr hlater
    · intro h
      by_cases hflawed : key = "" ∨ value = ""
      · exact .inl hflawed
      · exact .inr ⟨hflawed, h.resolve_left hflawed⟩

/-! ## What comes first -/

theorem offer_eq_true_iff {p : Param} :
    (params.offer p).1 = true ↔ params.values.get? p.key = none := by
  simp [offer, contains, SortedMap.contains]

theorem get?_foldl_insertPair (params : Params) (pairs : List (String × String)) (key : String) :
    (pairs.foldl insertPair params).values.get? key = (params.values.get? key).or
      ((pairs.find? (·.1 = key)).map fun pair => Percent.encode pair.2) := by
  have hinserts : pairs.foldl insertPair params =
      (pairs.map fun pair => (⟨pair.1, Percent.encode pair.2⟩ : Param)).foldl insert params := by
    rw [List.foldl_map]
    rfl
  rw [hinserts, get?_foldl_insert, List.find?_map, Option.map_map]
  rfl

theorem firstWins_foldl_insertPair (pairs : List (String × String)) :
    (pairs.foldl insertPair empty).FirstWins pairs where
  increasing := by
    refine (pairs.foldl insertPair empty).values.sorted.imp ?_
    intro a b hlt
    have hkeys : a.1 < b.1 := compareOfLessAndEq_eq_lt.mp hlt
    exact hkeys
  mem_iff := by
    intro key code
    rw [entries, SortedMap.mem_entries, get?_foldl_insertPair, get?_empty, Option.none_or,
      Option.map_eq_some_iff]
    constructor
    · rintro ⟨⟨key', value⟩, hfind, rfl⟩
      obtain rfl : key' = key := by simpa using List.find?_some hfind
      exact ⟨value, hfind, rfl⟩
    · rintro ⟨value, hfind, rfl⟩
      exact ⟨_, hfind, rfl⟩

theorem ofPairs_eq_ok_iff : ofPairs pairs = .ok params ↔
    (∀ pair ∈ pairs, pair.1 ≠ "" ∧ pair.2 ≠ "") ∧ params = pairs.foldl insertPair empty :=
  addPairs_eq_ok_iff

theorem firstWins_of_ofPairs (h : ofPairs pairs = .ok params) : params.FirstWins pairs := by
  obtain ⟨-, rfl⟩ := ofPairs_eq_ok_iff.mp h
  exact firstWins_foldl_insertPair pairs

/-- A pair is put in if its key has not come before. -/
theorem offer_of_ofPairs {before after : List (String × String)}
    (h : ofPairs (before ++ pair :: after) = .ok params) :
    ∃ sofar p, ofPairs before = .ok sofar ∧ Param.single pair.1 pair.2 = .ok p ∧
      ofPairs (before ++ [pair]) = .ok (sofar.offer p).2 ∧
      ((sofar.offer p).1 = true ↔ pair.1 ∉ before.map (·.1)) := by
  obtain ⟨hsound, -⟩ := ofPairs_eq_ok_iff.mp h
  obtain ⟨hbefore, hrest⟩ := List.forall_mem_append.mp hsound
  obtain ⟨hpair, -⟩ := List.forall_mem_cons.mp hrest
  refine ⟨_, _, ofPairs_eq_ok_iff.mpr ⟨hbefore, rfl⟩,
    Param.single_eq_ok_iff.mpr ⟨hpair.1, hpair.2, rfl⟩, ?_, ?_⟩
  · rw [ofPairs_eq_ok_iff]
    refine ⟨List.forall_mem_append.mpr ⟨hbefore, by simpa using hpair⟩, ?_⟩
    rw [List.foldl_append]
    rfl
  · rw [offer_eq_true_iff, get?_foldl_insertPair, get?_empty, Option.none_or,
      Option.map_eq_none_iff, List.find?_eq_none]
    constructor
    · intro hfresh hmem
      obtain ⟨earlier, hearlier, hkey⟩ := List.mem_map.mp hmem
      exact hfresh earlier hearlier (decide_eq_true hkey)
    · intro hfresh earlier hearlier hkey
      exact hfresh (List.mem_map.mpr ⟨earlier, hearlier, of_decide_eq_true hkey⟩)

end Params

/-! ## Another order -/

namespace Reordered

variable {pairs pairs' : List (String × String)}

theorem find?_eq (h : Reordered pairs pairs') (key : String) :
    pairs.find? (·.1 = key) = pairs'.find? (·.1 = key) := by
  rw [← List.head?_filter, ← List.head?_filter, h.sameKey]

/-- Pairs with different keys may come in any order. -/
theorem of_nodup (hperm : pairs.Perm pairs') (hkeys : (pairs.map (·.1)).Nodup) :
    Reordered pairs pairs' where
  perm := hperm
  sameKey := by
    intro key
    have hfiltered := hperm.filter (·.1 = key)
    have hshort : (pairs.filter (·.1 = key)).length ≤ 1 := by
      have hcount := List.nodup_iff_count_le_one.mp hkeys key
      rwa [List.count, List.countP_map, List.countP_eq_length_filter] at hcount
    cases hpairs : pairs.filter (·.1 = key) with
    | nil =>
      rw [hpairs] at hfiltered
      exact (List.nil_perm.mp hfiltered).symm
    | cons pair rest =>
      rw [hpairs] at hfiltered hshort
      obtain rfl : rest = [] := by simpa using hshort
      exact List.singleton_perm.mp hfiltered

theorem foldl_insertPair_eq (h : Reordered pairs pairs') (params : Params) :
    pairs.foldl Params.insertPair params = pairs'.foldl Params.insertPair params := by
  have hvalues : (pairs.foldl Params.insertPair params).values =
      (pairs'.foldl Params.insertPair params).values := by
    apply SortedMap.ext_get?
    intro key
    rw [Params.get?_foldl_insertPair, Params.get?_foldl_insertPair, h.find?_eq]
  exact congrArg Params.mk hvalues

theorem ofPairs_iff (h : Reordered pairs pairs') {params : Params} :
    Params.ofPairs pairs = .ok params ↔ Params.ofPairs pairs' = .ok params := by
  simp only [Params.ofPairs_eq_ok_iff, h.perm.mem_iff, h.foldl_insertPair_eq]

section Requests

variable {config : ServiceConfig} {keys : Keys} {o : RequestOptions} {url : Url}

theorem signable_iff (h : Reordered pairs pairs') :
    Request.Signable keys { o with options := pairs } ↔
      Request.Signable keys { o with options := pairs' } := by
  constructor
  · intro hsignable
    exact ⟨hsignable.token, fun pair hmem => hsignable.options pair (h.perm.mem_iff.mpr hmem)⟩
  · intro hsignable
    exact ⟨hsignable.token, fun pair hmem => hsignable.options pair (h.perm.mem_iff.mp hmem)⟩

theorem endpointUrl_iff (h : Reordered pairs pairs') {endpoint : Endpoint} :
    Request.endpointUrl config keys endpoint { o with options := pairs } = .ok url ↔
      Request.endpointUrl config keys endpoint { o with options := pairs' } = .ok url := by
  have hparams : Request.endpointParams keys { o with options := pairs } =
      Request.endpointParams keys { o with options := pairs' } := h.foldl_insertPair_eq _
  rw [Request.endpointUrl_eq_ok_iff, Request.endpointUrl_eq_ok_iff, h.signable_iff, hparams]
  rfl

theorem stockUrl_iff (h : Reordered pairs pairs') {endpoints : List Endpoint}
    {symbols : List Symbol} :
    Request.stockUrl config keys endpoints symbols { o with options := pairs } = .ok url ↔
      Request.stockUrl config keys endpoints symbols { o with options := pairs' } = .ok url := by
  have hparams : Request.stockParams keys endpoints symbols { o with options := pairs } =
      Request.stockParams keys endpoints symbols { o with options := pairs' } :=
    h.foldl_insertPair_eq _
  rw [Request.stockUrl_eq_ok_iff, Request.stockUrl_eq_ok_iff, h.signable_iff, hparams]
  rfl

end Requests

end Reordered

open Params Request in
/-- **The first value wins.** A parameter set cannot be made exactly if some pair has an empty part,
and the first such pair is told. Otherwise it holds each key once, in order, with the value that the
key came with first. So only the order of pairs with one key matters, here and for the URLs of
requests. -/
theorem params_first_wins (pairs : List (String × String)) :
    ((∃ fault, ofPairs pairs = .error fault) ↔ ∃ pair ∈ pairs, pair.1 = "" ∨ pair.2 = "") ∧
    (∀ fault, ofPairs pairs = .error fault ↔ FirstFlaw pairs fault) ∧
    (∀ params, ofPairs pairs = .ok params → params.FirstWins pairs ∧
      ∀ before pair after, pairs = before ++ pair :: after →
        ∃ sofar p, ofPairs before = .ok sofar ∧ Param.single pair.1 pair.2 = .ok p ∧
          ofPairs (before ++ [pair]) = .ok (sofar.offer p).2 ∧
          ((sofar.offer p).1 = true ↔ pair.1 ∉ before.map (·.1))) ∧
    (∀ pairs', pairs.Perm pairs' → (pairs.map (·.1)).Nodup →
      (∀ params, ofPairs pairs = .ok params ↔ ofPairs pairs' = .ok params) ∧
      ∀ base url, ((ofPairs pairs >>= Url.withParams base) = .ok url ↔
        (ofPairs pairs' >>= Url.withParams base) = .ok url)) ∧
    ∀ pairs', Reordered pairs pairs' → ∀ config keys (o : RequestOptions),
      (∀ endpoint url,
        endpointUrl config keys endpoint { o with options := pairs } = .ok url ↔
          endpointUrl config keys endpoint { o with options := pairs' } = .ok url) ∧
      ∀ endpoints symbols url,
        stockUrl config keys endpoints symbols { o with options := pairs } = .ok url ↔
          stockUrl config keys endpoints symbols { o with options := pairs' } = .ok url := by
  refine ⟨?flawed, fun _ => ofPairs_eq_error_iff, ?made, ?permuted, ?requests⟩
  case flawed =>
    simp only [ofPairs_eq_error_iff, exists_firstFlaw_iff]
  case made =>
    intro params hparams
    refine ⟨firstWins_of_ofPairs hparams, ?_⟩
    rintro before pair after rfl
    exact offer_of_ofPairs hparams
  case permuted =>
    intro pairs' hperm hkeys
    have hreordered : Reordered pairs pairs' := .of_nodup hperm hkeys
    refine ⟨fun _ => hreordered.ofPairs_iff, fun base url => ?_⟩
    simp only [Steps.bind_eq_ok_iff, hreordered.ofPairs_iff]
  case requests =>
    intro pairs' hreordered config keys o
    exact ⟨fun _ _ => hreordered.endpointUrl_iff, fun _ _ _ => hreordered.stockUrl_iff⟩

example : (Params.ofPairs [("b", "1"), ("a", "2"), ("b", "3")]).map Params.query =
    .ok "a=2&b=1" := by
  rfl

example : (Params.ofPairs [("a", "1"), ("a", ""), ("", "2")]).map Params.query =
    .error .emptyParamValue := by
  rfl

end MarketData
