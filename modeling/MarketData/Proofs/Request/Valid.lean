import MarketData.Market.Request
import MarketData.Proofs.SortedMap
import MarketData.Proofs.Steps

/-! Which requests have URLs. A parameter can be made if nothing of it is empty
(`Param.single_eq_ok_iff`, `Param.list_eq_ok_iff`), and the options of a request come after its own
parameters, each checked even where its key is taken (`Params.addPairs_eq_ok_iff`). Symbols are cut
into chunks that lose none of them (`Request.chunks_flatten`), so that the URLs of a stock request
can be made exactly if the request is well-formed as a whole (`Request.stockUrls_ok_iff`).
`Request.Flawed` lists what may be wrong with it. -/

namespace MarketData

/-! ## Parameters -/

namespace Param

theorem single_eq_ok_iff {key value : String} {p : Param} :
    single key value = .ok p ↔ key ≠ "" ∧ value ≠ "" ∧ p = ⟨key, Percent.encode value⟩ := by
  unfold single
  split
  · rename_i hkey
    simp [String.isEmpty_iff.mp hkey]
  · rename_i hkey
    split
    · rename_i hvalue
      simp [String.isEmpty_iff.mp hvalue]
    · rename_i hvalue
      rw [String.isEmpty_iff] at hkey hvalue
      simp [hkey, hvalue, eq_comm]

theorem encodeElement_eq_ok_iff {element encoded : String} :
    encodeElement element = .ok encoded ↔ element ≠ "" ∧ encoded = Percent.encode element := by
  unfold encodeElement
  split
  · rename_i hempty
    simp [String.isEmpty_iff.mp hempty]
  · rename_i hempty
    rw [String.isEmpty_iff] at hempty
    simp [hempty, eq_comm]

theorem mapM_encodeElement_eq_ok_iff {elements encoded : List String} :
    elements.mapM encodeElement = .ok encoded ↔
      (∀ x ∈ elements, x ≠ "") ∧ encoded = elements.map Percent.encode := by
  rw [Steps.mapM_eq_ok_iff]
  induction elements generalizing encoded with
  | nil => simp [eq_comm]
  | cons x elements ih =>
    cases encoded with
    | nil => simp
    | cons y encoded =>
      simp only [List.map_cons, List.cons.injEq, encodeElement_eq_ok_iff, ih,
        List.forall_mem_cons]
      tauto

theorem list_eq_ok_iff {key : String} {elements : List String} {p : Param} :
    list key elements = .ok p ↔ key ≠ "" ∧ elements ≠ [] ∧ (∀ x ∈ elements, x ≠ "") ∧
      p = ⟨key, ",".intercalate (elements.map Percent.encode)⟩ := by
  unfold list
  split
  · rename_i hkey
    simp [String.isEmpty_iff.mp hkey]
  · rename_i hkey
    rw [String.isEmpty_iff] at hkey
    simp only [Steps.bind_eq_ok_iff, mapM_encodeElement_eq_ok_iff]
    constructor
    · rintro ⟨_, ⟨hall, rfl⟩, h⟩
      cases elements with
      | nil => simp at h
      | cons x elements => exact ⟨hkey, by simp, hall, by simpa [eq_comm] using h⟩
    · rintro ⟨-, hne, hall, rfl⟩
      exact ⟨_, ⟨hall, rfl⟩, by simp [hne]⟩

end Param

namespace Params

/-- The parameter of a pair is put in, if its key is free. -/
def insertPair (params : Params) (pair : String × String) : Params :=
  params.insert ⟨pair.1, Percent.encode pair.2⟩

theorem addPairs_cons (params : Params) (pair : String × String)
    (pairs : List (String × String)) : params.addPairs (pair :: pairs) =
      Param.single pair.1 pair.2 >>= fun p => (params.insert p).addPairs pairs := by
  obtain ⟨key, value⟩ := pair
  unfold addPairs
  rw [List.foldlM_cons]
  simp only
  cases Param.single key value <;> rfl

theorem addPairs_eq_ok_iff {params params' : Params} {pairs : List (String × String)} :
    params.addPairs pairs = .ok params' ↔
      (∀ pair ∈ pairs, pair.1 ≠ "" ∧ pair.2 ≠ "") ∧ params' = pairs.foldl insertPair params := by
  induction pairs generalizing params with
  | nil =>
    rw [show params.addPairs [] = .ok params from rfl, Except.ok.injEq]
    exact ⟨fun h => ⟨by simp, h.symm⟩, fun h => h.2.symm⟩
  | cons pair pairs ih =>
    rw [addPairs_cons, Steps.bind_eq_ok_iff, List.forall_mem_cons]
    simp only [Param.single_eq_ok_iff, ih]
    constructor
    · rintro ⟨_, ⟨hkey, hvalue, rfl⟩, hrest, rfl⟩
      exact ⟨⟨⟨hkey, hvalue⟩, hrest⟩, rfl⟩
    · rintro ⟨⟨⟨hkey, hvalue⟩, hrest⟩, rfl⟩
      exact ⟨_, ⟨hkey, hvalue, rfl⟩, hrest, rfl⟩

theorem get?_empty {key : String} : empty.values.get? key = none := rfl

/-- A key that is there keeps its value. -/
theorem get?_insert (params : Params) (p : Param) (key : String) :
    (params.insert p).values.get? key =
      if key = p.key ∧ params.values.get? p.key = none then some p.value
      else params.values.get? key :=
  SortedMap.get?_insertNew ..

theorem get?_insert_of_some {params : Params} {p : Param} {key value : String}
    (h : params.values.get? key = some value) :
    (params.insert p).values.get? key = some value := by
  rw [get?_insert, if_neg, h]
  rintro ⟨rfl, hnone⟩
  rw [h] at hnone
  contradiction

theorem get?_foldl_insertPair_of_some {params : Params} {pairs : List (String × String)}
    {key value : String} (h : params.values.get? key = some value) :
    (pairs.foldl insertPair params).values.get? key = some value := by
  induction pairs generalizing params with
  | nil => exact h
  | cons pair pairs ih => exact ih (get?_insert_of_some h)

theorem isEmpty_eq_false_of_get? {params : Params} {key value : String}
    (h : params.values.get? key = some value) : params.isEmpty = false := by
  have hmem := SortedMap.mem_entries.mpr h
  rw [isEmpty, SortedMap.isEmpty, List.isEmpty_eq_false_iff]
  exact List.ne_nil_of_mem hmem

end Params

namespace Url

variable {base : String} {params : Params}

theorem ofString_of_ne (hbase : base ≠ "") : ofString base = .ok ⟨base⟩ := by
  rw [ofString, if_neg]
  rw [String.isEmpty_iff]
  exact hbase

theorem withParams_of_ne (hbase : base ≠ "") (hparams : params.isEmpty = false) :
    withParams base params = .ok ⟨base ++ "?" ++ params.query⟩ := by
  rw [withParams, ofString_of_ne hbase, hparams]
  rfl

theorem withParams_of_isEmpty (hbase : base ≠ "") (hparams : params.isEmpty = true) :
    withParams base params = .ok ⟨base⟩ := by
  rw [withParams, ofString_of_ne hbase, hparams]
  rfl

end Url

/-! ## Symbols in chunks -/

namespace Request

section Chunks

variable {α : Type} {size : Nat} {xs chunk : List α}

@[simp] theorem chunks_nil : chunks size ([] : List α) = [] := by
  rcases Nat.eq_zero_or_pos size with rfl | hpos
  · simp [chunks]
  · have hzero : (([] : List α).length + size - 1) / size = 0 := by
      rw [List.length_nil]
      exact Nat.div_eq_of_lt (by omega)
    rw [chunks, hzero]
    rfl

theorem chunks_of_ne_nil (hsize : 0 < size) (hxs : xs ≠ []) :
    chunks size xs = xs.take size :: chunks size (xs.drop size) := by
  have hpos : 0 < xs.length := List.length_pos_iff.mpr hxs
  have hcount : (xs.length + size - 1) / size =
      ((xs.drop size).length + size - 1) / size + 1 := by
    rw [List.length_drop, ← Nat.add_div_right _ hsize]
    rcases Nat.le_total xs.length size with hle | hge
    · rw [Nat.div_eq_of_lt_le (k := 1) (by omega) (by omega),
        Nat.div_eq_of_lt_le (k := 1) (by omega) (by omega)]
    · congr 1
      omega
  rw [chunks, hcount, List.range_succ_eq_map, List.map_cons, List.map_map]
  refine congrArg₂ List.cons (by simp) (List.map_congr_left fun i _ => ?_)
  simp [List.drop_drop, Nat.mul_succ, Nat.add_comm]

/-- No element is lost, repeated or moved. -/
theorem chunks_flatten (hsize : 0 < size) (xs : List α) : (chunks size xs).flatten = xs := by
  induction hn : xs.length using Nat.strongRecOn generalizing xs with
  | _ n ih =>
    by_cases hxs : xs = []
    · simp [hxs]
    · have hpos : 0 < xs.length := List.length_pos_iff.mpr hxs
      have hshorter : (xs.drop size).length < n := by
        rw [List.length_drop]
        omega
      rw [chunks_of_ne_nil hsize hxs, List.flatten_cons, ih _ hshorter _ rfl,
        List.take_append_drop]

theorem ne_nil_of_mem_chunks (hsize : 0 < size) (h : chunk ∈ chunks size xs) : chunk ≠ [] := by
  induction hn : xs.length using Nat.strongRecOn generalizing xs with
  | _ n ih =>
    by_cases hxs : xs = []
    · simp [hxs] at h
    · have hpos : 0 < xs.length := List.length_pos_iff.mpr hxs
      rw [chunks_of_ne_nil hsize hxs, List.mem_cons] at h
      rcases h with rfl | h
      · rw [← List.length_pos_iff, List.length_take]
        omega
      · exact ih _ (by rw [List.length_drop]; omega) h rfl

end Chunks

variable {config : ServiceConfig} {keys : Keys} {endpoints : List Endpoint}
  {symbols : List Symbol} {o : RequestOptions} {url : Url}

@[simp] theorem mem_sortedDistinct {α : Type} [Ord α] [Std.TransOrd α] [Std.LawfulEqOrd α]
    [DecidableEq α] {xs : List α} {x : α} : x ∈ sortedDistinct xs ↔ x ∈ xs := by
  rw [sortedDistinct, SortedMap.mem_keys_ofList]
  simp

theorem sortedDistinct_ne_nil {α : Type} [Ord α] [Std.TransOrd α] [Std.LawfulEqOrd α]
    [DecidableEq α] {xs : List α} : sortedDistinct xs ≠ [] ↔ xs ≠ [] := by
  rw [ne_eq, ne_eq, List.eq_nil_iff_forall_not_mem, List.eq_nil_iff_forall_not_mem]
  simp only [mem_sortedDistinct]

/-! ## Whole requests -/

/-- The parameters of a request for these symbols. -/
def stockParams (keys : Keys) (endpoints : List Endpoint) (symbols : List Symbol)
    (o : RequestOptions) : Params :=
  let listed (key : String) (elements : List String) : Param :=
    ⟨key, ",".intercalate ((sortedDistinct elements).map Percent.encode)⟩
  o.options.foldl .insertPair <|
    ((Params.empty.insert (listed "symbols" (symbols.map (·.text)))).insert
      (listed "types" (endpoints.map (·.path)))).insert
      ⟨"token", Percent.encode (keys.token o.dataType)⟩

/-- The parameters of a request for a basic endpoint. -/
def endpointParams (keys : Keys) (o : RequestOptions) : Params :=
  o.options.foldl .insertPair <|
    Params.empty.insert ⟨"token", Percent.encode (keys.token o.dataType)⟩

/-- What a request of any kind needs to be signed and to carry its options. -/
structure Signable (keys : Keys) (o : RequestOptions) : Prop where
  token : keys.token o.dataType ≠ ""
  options : ∀ pair ∈ o.options, pair.1 ≠ "" ∧ pair.2 ≠ ""

theorem endpointParams_get? : (endpointParams keys o).values.get? "token" =
    some (Percent.encode (keys.token o.dataType)) := by
  refine Params.get?_foldl_insertPair_of_some ?_
  simp [Params.get?_insert, Params.get?_empty]

/-- No option takes the place of a parameter of the request. -/
theorem stockParams_get? :
    (stockParams keys endpoints symbols o).values.get? "token" =
      some (Percent.encode (keys.token o.dataType)) ∧
    (stockParams keys endpoints symbols o).values.get? "symbols" =
      some (",".intercalate ((sortedDistinct (symbols.map (·.text))).map Percent.encode)) ∧
    (stockParams keys endpoints symbols o).values.get? "types" =
      some (",".intercalate ((sortedDistinct (endpoints.map (·.path))).map Percent.encode)) := by
  refine ⟨Params.get?_foldl_insertPair_of_some ?_, Params.get?_foldl_insertPair_of_some ?_,
    Params.get?_foldl_insertPair_of_some ?_⟩ <;>
  simp [Params.get?_insert, Params.get?_empty]

theorem endpointUrl_eq_ok_iff {endpoint : Endpoint} :
    endpointUrl config keys endpoint o = .ok url ↔ Signable keys o ∧
      url = ⟨root config o ++ "/" ++ endpoint.path ++ "?" ++ (endpointParams keys o).query⟩ := by
  have hbase : root config o ++ "/" ++ endpoint.path ≠ "" := by
    intro h
    simp [String.append_eq_empty_iff] at h
  have hparams : (endpointParams keys o).isEmpty = false :=
    Params.isEmpty_eq_false_of_get? endpointParams_get?
  have hurl := Url.withParams_of_ne hbase hparams
  simp only [endpointUrl, Steps.bind_eq_ok_iff, Param.single_eq_ok_iff, Params.addPairs_eq_ok_iff]
  constructor
  · rintro ⟨_, ⟨-, htoken, rfl⟩, _, ⟨hoptions, rfl⟩, h⟩
    exact ⟨⟨htoken, hoptions⟩, (Except.ok.inj (hurl.symm.trans h)).symm⟩
  · rintro ⟨⟨htoken, hoptions⟩, rfl⟩
    exact ⟨_, ⟨by decide, htoken, rfl⟩, _, ⟨hoptions, rfl⟩, hurl⟩

theorem stockUrl_eq_ok_iff :
    stockUrl config keys endpoints symbols o = .ok url ↔
      (symbols ≠ [] ∧ ∀ s ∈ symbols, s.text ≠ "") ∧ endpoints ≠ [] ∧ Signable keys o ∧
        url = ⟨root config o ++ "/stock/market/batch" ++ "?" ++
          (stockParams keys endpoints symbols o).query⟩ := by
  have hbase : root config o ++ "/stock/market/batch" ≠ "" := by
    intro h
    simp [String.append_eq_empty_iff] at h
  have hpaths : ∀ x ∈ sortedDistinct (endpoints.map (·.path)), x ≠ "" := by
    intro x hx
    obtain ⟨endpoint, -, rfl⟩ := List.mem_map.mp (mem_sortedDistinct.mp hx)
    cases endpoint <;> decide
  have hsymbols : (∀ x ∈ sortedDistinct (symbols.map (·.text)), x ≠ "") ↔
      ∀ s ∈ symbols, s.text ≠ "" := by
    simp
  have hparams : (stockParams keys endpoints symbols o).isEmpty = false :=
    Params.isEmpty_eq_false_of_get? stockParams_get?.1
  have hurl := Url.withParams_of_ne hbase hparams
  simp only [stockUrl, Steps.bind_eq_ok_iff, Param.list_eq_ok_iff, Param.single_eq_ok_iff,
    Params.addPairs_eq_ok_iff, sortedDistinct_ne_nil, ne_eq, List.map_eq_nil_iff, hsymbols]
  constructor
  · rintro ⟨_, ⟨-, hne, htexts, rfl⟩, _, ⟨-, hne', -, rfl⟩, _, ⟨-, htoken, rfl⟩, _,
      ⟨hoptions, rfl⟩, h⟩
    exact ⟨⟨hne, htexts⟩, hne', ⟨htoken, hoptions⟩, (Except.ok.inj (hurl.symm.trans h)).symm⟩
  · rintro ⟨⟨hne, htexts⟩, hne', ⟨htoken, hoptions⟩, rfl⟩
    exact ⟨_, ⟨by decide, hne, htexts, rfl⟩, _, ⟨by decide, hne', hpaths, rfl⟩, _,
      ⟨by decide, htoken, rfl⟩, _, ⟨hoptions, rfl⟩, hurl⟩

/-- The chunks of a set of symbols, each asked for by one URL. -/
def symbolChunks (symbols : SymbolSet) : List (List Symbol) :=
  chunks maxSymbolsPerRequest (sortedDistinct symbols.items)

theorem symbolChunks_flatten (symbols : SymbolSet) :
    (symbolChunks symbols).flatten = sortedDistinct symbols.items :=
  chunks_flatten (by decide) _

theorem mem_symbols_iff {symbols : SymbolSet} {s : Symbol} :
    s ∈ symbols.items ↔ ∃ chunk ∈ symbolChunks symbols, s ∈ chunk := by
  rw [← List.mem_flatten, symbolChunks_flatten, mem_sortedDistinct]

theorem stockUrls_ok_iff {symbols : SymbolSet} (hne : symbols.items ≠ []) :
    (∃ urls, stockUrls config keys endpoints symbols o = .ok urls) ↔
      (∀ s ∈ symbols.items, s.text ≠ "") ∧ endpoints ≠ [] ∧ Signable keys o := by
  have hurls : (∃ urls, stockUrls config keys endpoints symbols o = .ok urls) ↔
      ∀ chunk ∈ symbolChunks symbols, ∃ url, stockUrl config keys endpoints chunk o = .ok url :=
    Steps.mapM_ok_iff
  simp only [hurls, stockUrl_eq_ok_iff]
  constructor
  · intro h
    obtain ⟨s, hs⟩ := List.exists_mem_of_ne_nil _ hne
    obtain ⟨chunk, hchunk, -⟩ := mem_symbols_iff.mp hs
    obtain ⟨-, -, hendpoints, hsignable, -⟩ := h chunk hchunk
    refine ⟨fun s hs => ?_, hendpoints, hsignable⟩
    obtain ⟨chunk, hchunk, hs⟩ := mem_symbols_iff.mp hs
    obtain ⟨-, ⟨-, htexts⟩, -⟩ := h chunk hchunk
    exact htexts s hs
  · rintro ⟨htexts, hendpoints, hsignable⟩ chunk hchunk
    exact ⟨_, ⟨ne_nil_of_mem_chunks (by decide) hchunk,
      fun s hs => htexts s (mem_symbols_iff.mpr ⟨chunk, hchunk, hs⟩)⟩, hendpoints, hsignable, rfl⟩

theorem stockUrls_ne_nil {symbols : SymbolSet} {urls : List Url} (hne : symbols.items ≠ [])
    (h : stockUrls config keys endpoints symbols o = .ok urls) : urls ≠ [] := by
  obtain ⟨s, hs⟩ := List.exists_mem_of_ne_nil _ hne
  obtain ⟨chunk, hchunk, -⟩ := mem_symbols_iff.mp hs
  obtain ⟨url, hurl, -⟩ := Steps.exists_of_mem_left h hchunk
  exact List.ne_nil_of_mem hurl

/-- What is wrong with a stock request. -/
inductive Flawed (keys : Keys) (endpoints : List Endpoint) (symbols : SymbolSet)
    (o : RequestOptions) : Prop
  | basicEndpoint : endpoint ∈ endpoints → endpoint.isStock = false →
    Flawed keys endpoints symbols o
  | noEndpoint : endpoints = [] → Flawed keys endpoints symbols o
  | noSymbol : symbols.items = [] → Flawed keys endpoints symbols o
  | emptySymbol : s ∈ symbols.items → s.text = "" → Flawed keys endpoints symbols o
  | noToken : keys.token o.dataType = "" → Flawed keys endpoints symbols o
  | emptyOptionKey : pair ∈ o.options → pair.1 = "" → Flawed keys endpoints symbols o
  | emptyOptionValue : pair ∈ o.options → pair.2 = "" → Flawed keys endpoints symbols o

structure WellFormed (keys : Keys) (endpoints : List Endpoint) (symbols : SymbolSet)
    (o : RequestOptions) : Prop where
  endpoints_ne : endpoints ≠ []
  stock : ∀ endpoint ∈ endpoints, endpoint.isStock = true
  symbols_ne : symbols.items ≠ []
  texts : ∀ s ∈ symbols.items, s.text ≠ ""
  signable : Signable keys o

theorem not_flawed_iff {symbols : SymbolSet} :
    ¬ Flawed keys endpoints symbols o ↔ WellFormed keys endpoints symbols o := by
  constructor
  · intro h
    refine ⟨fun hnil => h (.noEndpoint hnil), fun endpoint hmem => ?_,
      fun hnil => h (.noSymbol hnil), fun s hmem htext => h (.emptySymbol hmem htext),
      fun htoken => h (.noToken htoken), fun pair hmem => ⟨fun hkey => ?_, fun hvalue => ?_⟩⟩
    · rw [← Bool.not_eq_false]
      exact fun hbasic => h (.basicEndpoint hmem hbasic)
    · exact h (.emptyOptionKey hmem hkey)
    · exact h (.emptyOptionValue hmem hvalue)
  · rintro w (⟨hmem, hbasic⟩ | hnil | hnil | ⟨hmem, htext⟩ | htoken | ⟨hmem, hkey⟩ | ⟨hmem, hvalue⟩)
    · simp [w.stock _ hmem] at hbasic
    · exact w.endpoints_ne hnil
    · exact w.symbols_ne hnil
    · exact w.texts _ hmem htext
    · exact w.signable.token htoken
    · exact (w.signable.options _ hmem).1 hkey
    · exact (w.signable.options _ hmem).2 hvalue

end Request

end MarketData
