import MarketData.Proofs.Request.Signing
import MarketData.Proofs.Stock.Split
import MarketData.Proofs.Url.Decoded

/-! Chunks partition a request. The symbols are put in increasing order and cut into pieces of equal
length, the last as long as what is left (`Request.Partition`). A URL gives its symbols away
(`Request.stockUrl_injective`), so that no two chunks are asked for by one URL. -/

namespace MarketData

namespace Distinct

variable {α : Type} [DecidableEq α] {xs : List α}

/-- Elements that are all different make a set of as many, in their order. -/
theorem ofList_items_of_nodup (h : xs.Nodup) : (ofList xs).items = xs := by
  suffices hfold : ∀ s : Distinct α, (s.items ++ xs).Nodup →
      (xs.foldl insert s).items = s.items ++ xs from hfold empty h
  clear h
  induction xs with
  | nil => simp
  | cons x xs ih =>
    intro s hnodup
    have hnew : x ∉ s.items := by
      have hdisjoint := (List.nodup_append.mp hnodup).2.2
      exact fun hx => hdisjoint x hx x List.mem_cons_self rfl
    have hinsert : (s.insert x).items = s.items ++ [x] := by rw [insert, dif_neg hnew]
    rw [List.foldl_cons, ih]
    · rw [hinsert, List.append_assoc, List.singleton_append]
    · rwa [hinsert, List.append_assoc, List.singleton_append]

end Distinct

theorem Environment.urlSet_perm (env : Environment) {urls : List Url} (h : urls.Nodup) :
    (env.urlSet urls).items.Perm urls := by
  have hperm : (env.urlSet urls).items.Perm (Distinct.ofList urls).items := (env.order .urls).perm _
  rwa [Distinct.ofList_items_of_nodup h] at hperm

namespace Steps

variable {ε α β : Type}

/-- The values of a traversal, step by step. -/
theorem forall₂_of_mapM {f : α → Except ε β} {xs : List α} {ys : List β}
    (h : xs.mapM f = .ok ys) : List.Forall₂ (fun x y => f x = .ok y) xs ys := by
  have hmaps : List.Forall₂ (· = ·) (xs.map f) (ys.map .ok) :=
    List.forall₂_eq_eq_eq ▸ mapM_eq_ok_iff.mp h
  rwa [List.forall₂_map_left_iff, List.forall₂_map_right_iff] at hmaps

/-- Different steps with different values. -/
theorem nodup_of_mapM {f : α → Except ε β} {xs : List α} {ys : List β} (h : xs.mapM f = .ok ys)
    (hxs : xs.Nodup) (hinjective : ∀ x ∈ xs, ∀ x' ∈ xs, ∀ y, f x = .ok y → f x' = .ok y → x = x') :
    ys.Nodup := by
  have hmap : (xs.map f).Nodup := by
    refine hxs.map_on fun x hx x' hx' heq => ?_
    obtain ⟨y, -, hy⟩ := exists_of_mem_left h hx
    exact hinjective x hx x' hx' y hy (heq ▸ hy)
  rw [mapM_eq_ok_iff.mp h] at hmap
  exact hmap.of_map

end Steps

/-! ## Increasing lists -/

namespace Request

section Increasing

variable {α : Type} [Ord α]

/-- Each element is smaller than those after it. -/
abbrev Increasing (xs : List α) : Prop := xs.Pairwise fun a b => compare a b = .lt

theorem Increasing.nodup [Std.LawfulEqOrd α] {xs : List α} (h : Increasing xs) : xs.Nodup :=
  h.imp Entries.ne_of_compare_lt

variable [Std.TransOrd α]

theorem Increasing.eq_of_mem_iff [Std.LawfulEqOrd α] {xs ys : List α} (hxs : Increasing xs)
    (hys : Increasing ys) (h : ∀ x, x ∈ xs ↔ x ∈ ys) : xs = ys := by
  have hperm : xs.Perm ys := (List.perm_ext_iff_of_nodup hxs.nodup hys.nodup).mpr h
  refine hperm.eq_of_pairwise ?_ hxs hys
  intro a b _ _ hab hba
  rw [Std.OrientedCmp.gt_iff_lt.mpr hab] at hba
  contradiction

theorem sortedDistinct_increasing (xs : List α) : Increasing (sortedDistinct xs) :=
  List.pairwise_map.mpr (SortedMap.ofList _).sorted

variable [Std.LawfulEqOrd α] [DecidableEq α] {xs : List α}

theorem sortedDistinct_perm (h : xs.Nodup) : (sortedDistinct xs).Perm xs :=
  (List.perm_ext_iff_of_nodup (sortedDistinct_increasing xs).nodup h).mpr fun _ =>
    mem_sortedDistinct

/-- Nothing is left to do where elements are in order and different. -/
theorem sortedDistinct_eq_self (h : Increasing xs) : sortedDistinct xs = xs :=
  (sortedDistinct_increasing xs).eq_of_mem_iff h fun _ => mem_sortedDistinct

/-- Neither order nor repetitions are left. -/
theorem sortedDistinct_congr {ys : List α} (h : ∀ x, x ∈ xs ↔ x ∈ ys) :
    sortedDistinct xs = sortedDistinct ys := by
  refine (sortedDistinct_increasing xs).eq_of_mem_iff (sortedDistinct_increasing ys) fun x => ?_
  rw [mem_sortedDistinct, mem_sortedDistinct, h]

end Increasing

/-! ## Pieces of equal length -/

section Chunks

variable {α : Type} {size : Nat} {xs chunk : List α}

theorem chunks_length (size : Nat) (xs : List α) :
    (chunks size xs).length = (xs.length + size - 1) / size := by
  rw [chunks, List.length_map, List.length_range]

theorem length_le_of_mem_chunks (h : chunk ∈ chunks size xs) : chunk.length ≤ size := by
  obtain ⟨i, -, rfl⟩ := List.mem_map.mp h
  exact List.length_take_le ..

/-- Only the last chunk may be short. -/
theorem length_of_mem_dropLast_chunks (hsize : 0 < size)
    (h : chunk ∈ (chunks size xs).dropLast) : chunk.length = size := by
  induction hn : xs.length using Nat.strongRecOn generalizing xs with
  | _ n ih =>
    by_cases hxs : xs = []
    · simp [hxs] at h
    rw [chunks_of_ne_nil hsize hxs] at h
    by_cases hrest : xs.drop size = []
    · simp [hrest] at h
    · have hlonger : size < xs.length := by
        rw [List.drop_eq_nil_iff] at hrest
        omega
      have hmore : chunks size (xs.drop size) ≠ [] := by
        rw [chunks_of_ne_nil hsize hrest]
        exact List.cons_ne_nil _ _
      rw [List.dropLast_cons_of_ne_nil hmore, List.mem_cons] at h
      rcases h with rfl | h
      · rw [List.length_take]
        omega
      · exact ih _ (by rw [List.length_drop]; omega) h rfl

/-- Chunks of elements that are all different differ, as none is empty. -/
theorem chunks_nodup (hsize : 0 < size) (h : xs.Nodup) : (chunks size xs).Nodup := by
  rw [← chunks_flatten hsize xs, List.nodup_flatten] at h
  refine h.2.imp_of_mem fun {a b} ha _ hdisjoint => ?_
  rintro rfl
  obtain ⟨x, hx⟩ := List.exists_mem_of_ne_nil _ (ne_nil_of_mem_chunks hsize ha)
  exact hdisjoint hx hx

end Chunks

/-- A set of symbols in consecutive pieces: in increasing order, none is lost or repeated, and only
the last piece may be short. -/
structure Partition (symbols : SymbolSet) (pieces : List (List Symbol)) : Prop where
  count : pieces.length = (symbols.size + 99) / 100
  increasing : Increasing pieces.flatten
  whole : pieces.flatten.Perm symbols.items
  length : ∀ piece ∈ pieces, 1 ≤ piece.length ∧ piece.length ≤ 100
  full : ∀ piece ∈ pieces.dropLast, piece.length = 100

theorem symbolChunks_partition (symbols : SymbolSet) :
    Partition symbols (symbolChunks symbols) := by
  have hperm : (sortedDistinct symbols.items).Perm symbols.items :=
    sortedDistinct_perm symbols.nodup
  refine ⟨?_, ?_, ?_, fun piece hpiece => ⟨?_, ?_⟩, fun piece => ?_⟩
  · rw [symbolChunks, chunks_length, hperm.length_eq]
    rfl
  · rw [symbolChunks_flatten]
    exact sortedDistinct_increasing _
  · rw [symbolChunks_flatten]
    exact hperm
  · exact List.length_pos_iff.mpr (ne_nil_of_mem_chunks (by decide) hpiece)
  · exact length_le_of_mem_chunks hpiece
  · exact length_of_mem_dropLast_chunks (by decide)

theorem Partition.increasing_of_mem {symbols : SymbolSet} {pieces : List (List Symbol)}
    (h : Partition symbols pieces) {piece : List Symbol} (hpiece : piece ∈ pieces) :
    Increasing piece := (List.pairwise_flatten.mp h.increasing).1 piece hpiece

end Request

/-! ## URLs give their symbols away -/

theorem codeElements_injective {xs ys : List String} (hxs : xs ≠ []) (hys : ys ≠ [])
    (h : codeElements xs = codeElements ys) : xs = ys := by
  have hcodes := congrArg (·.toList.splitOn ',') h
  simp only [splitOn_codeElements hxs, splitOn_codeElements hys] at hcodes
  refine List.map_injective_iff.mpr (fun x y hxy => ?_) hcodes
  have hcode := congrArg Percent.decode (String.toList_inj.mp hxy)
  rw [Percent.decode_encode, Percent.decode_encode] at hcode
  exact Option.some.inj hcode

namespace Params

/-- Queries that differ in the value of one key differ. -/
theorem DifferAt.value_eq {key value value' : String} {params params' : Params}
    (h : DifferAt key value value' params params') (heq : params.query = params'.query) :
    value = value' := by
  obtain ⟨before, after, hentries, hentries'⟩ := h.entries
  have htext := congrArg String.toList heq
  rw [query_of_entries hentries, query_of_entries hentries', List.append_left_inj,
    List.append_right_inj, entryText, entryText, List.append_right_inj] at htext
  exact String.toList_inj.mp (List.cons.inj htext).2

end Params

namespace Request

variable {config : ServiceConfig} {keys : Keys} {endpoints : List Endpoint} {o : RequestOptions}

/-- The URL of a request whose `symbols` are these, in this order. -/
structure AsksFor (config : ServiceConfig) (keys : Keys) (endpoints : List Endpoint)
    (o : RequestOptions) (symbols : List Symbol) (url : Url) : Prop where
  text : url.text = root config o ++ "/stock/market/batch" ++ "?" ++
    (stockParams keys endpoints symbols o).query
  listed : (stockParams keys endpoints symbols o).values.get? "symbols" =
    some (codeElements (symbols.map (·.text)))

/-- Symbols that are in order and different are not sorted anew. -/
theorem Increasing.texts {symbols : List Symbol} (h : Increasing symbols) :
    sortedDistinct (symbols.map (·.text)) = symbols.map (·.text) :=
  sortedDistinct_eq_self (List.pairwise_map.mpr h)

theorem asksFor_of_stockUrl {symbols : List Symbol} {url : Url} (hsymbols : Increasing symbols)
    (h : stockUrl config keys endpoints symbols o = .ok url) :
    AsksFor config keys endpoints o symbols url := by
  obtain ⟨-, -, -, rfl⟩ := stockUrl_eq_ok_iff.mp h
  refine ⟨rfl, ?_⟩
  rw [stockParams_get?.2.1, hsymbols.texts]
  rfl

/-- Lists of symbols that are asked for by one URL are the same. -/
theorem stockUrl_injective {a b : List Symbol} {url : Url} (hincreasing : Increasing a)
    (hincreasing' : Increasing b) (ha : stockUrl config keys endpoints a o = .ok url)
    (hb : stockUrl config keys endpoints b o = .ok url) : a = b := by
  obtain ⟨⟨hne, -⟩, -, -, rfl⟩ := stockUrl_eq_ok_iff.mp ha
  obtain ⟨⟨hne', -⟩, -, -, hurl⟩ := stockUrl_eq_ok_iff.mp hb
  have hdiffer : Params.DifferAt "symbols" _ _ (stockParams keys endpoints a o)
      (stockParams keys endpoints b o) :=
    (((Params.DifferAt.put rfl).insert _).insert _).foldl_insertPair o.options
  have hquery : (stockParams keys endpoints a o).query = (stockParams keys endpoints b o).query :=
    (String.append_right_inj _).mp (congrArg Url.text hurl)
  have hvalue := hdiffer.value_eq hquery
  rw [hincreasing.texts, hincreasing'.texts] at hvalue
  have htexts : a.map (·.text) = b.map (·.text) :=
    codeElements_injective (by simpa using hne) (by simpa using hne') hvalue
  refine List.map_injective_iff.mpr (fun s t hst => ?_) htexts
  cases s
  cases t
  exact congrArg _ hst

/-- The URLs of a request differ, one for each of its chunks. -/
theorem stockUrls_partition {symbols : SymbolSet} {urls : List Url}
    (h : stockUrls config keys endpoints symbols o = .ok urls) :
    urls.Nodup ∧ List.Forall₂ (AsksFor config keys endpoints o) (symbolChunks symbols) urls := by
  have hincreasing : ∀ chunk ∈ symbolChunks symbols, Increasing chunk := fun chunk =>
    (symbolChunks_partition symbols).increasing_of_mem
  have hmade : (symbolChunks symbols).mapM (stockUrl config keys endpoints · o) = .ok urls := h
  constructor
  · refine Steps.nodup_of_mapM hmade ?_ fun a ha b hb url => ?_
    · exact chunks_nodup (by decide) (sortedDistinct_increasing _).nodup
    · exact stockUrl_injective (hincreasing a ha) (hincreasing b hb)
  · have heach := (List.forall₂_and_left _ _).mpr ⟨hincreasing, Steps.forall₂_of_mapM hmade⟩
    exact heach.imp fun chunk url hchunk => asksFor_of_stockUrl hchunk.1 hchunk.2

end Request

/-- A well-formed request performs its URLs. -/
theorem Client.getStock_eq_perform (env : Environment) (footing : Footing) (s : Session)
    {c : Client} {endpoints : List Endpoint} {symbols : SymbolSet} {o : RequestOptions}
    {urls : List Url} (h : Request.WellFormed c.keys endpoints symbols o)
    (hurls : Request.stockUrls c.config c.keys endpoints symbols o = .ok urls) :
    (c.getStock env footing endpoints symbols o s).1.run = (c.perform env footing urls s).1.run ∧
      (c.getStock env footing endpoints symbols o s).2 = (c.perform env footing urls s).2 := by
  have hobjection := stockObjection?_eq_none_iff.mpr ⟨h.stock, h.symbols_ne⟩
  simp only [getStock, hobjection, hurls, and_self]

/-- **Chunks partition a request.** A well-formed request for `n` symbols hands the gate a set of
`⌈n / 100⌉` URLs, in some order. One by one these ask for the pieces of a partition of the symbols:
in order the pieces are all symbols in increasing order, none lost or repeated; each is of 1 to 100
symbols, and each but the last of 100. -/
theorem request_partitioned (env : Environment) (footing : Footing) (c : Client)
    (endpoints : List Endpoint) (symbols : SymbolSet) (o : RequestOptions) (s : Session)
    (h : Request.WellFormed c.keys endpoints symbols o) :
    ∃ (urls : List Url) (handed : UrlSet) (pieces : List (List Symbol)),
      Request.stockUrls c.config c.keys endpoints symbols o = .ok urls ∧
      handed.items.Perm urls ∧
      (let fetched := s.gate.fetch env footing handed c.config.maxConnections s.engine s.now
        let answer := c.getStock env footing endpoints symbols o s
        answer.1.run = some fetched.1.1 ∧ answer.2 = ⟨fetched.1.2, fetched.2.2, fetched.2.1⟩) ∧
      handed.size = (symbols.size + 99) / 100 ∧
      Request.Partition symbols pieces ∧
      List.Forall₂ (Request.AsksFor c.config c.keys endpoints o) pieces urls := by
  obtain ⟨urls, hurls⟩ :=
    (Request.stockUrls_ok_iff h.symbols_ne).mpr ⟨h.texts, h.endpoints_ne, h.signable⟩
  obtain ⟨hnodup, heach⟩ := Request.stockUrls_partition hurls
  have hhanded : (env.urlSet urls).items.Perm urls := env.urlSet_perm hnodup
  have hpartition := Request.symbolChunks_partition symbols
  obtain ⟨hrun, hsession⟩ := Client.getStock_eq_perform env footing s h hurls
  refine ⟨urls, env.urlSet urls, _, hurls, hhanded, ⟨hrun, hsession⟩, ?_, hpartition, heach⟩
  rw [Distinct.size, hhanded.length_eq, ← heach.length_eq, hpartition.count]

namespace OneKnown

theorem symbols_size : symbols.size = 101 := by
  rw [symbols, Distinct.size, Distinct.ofList_items_of_nodup, List.length_map, List.length_range]
  refine List.nodup_range.map fun m n hmn => ?_
  have htext := String.ofList_inj.mp (congrArg Symbol.text hmn)
  simpa using congrArg List.length htext

end OneKnown

/-- One symbol more than fit one URL takes a second one. -/
theorem request_partitioned_oneMore :
    Request.WellFormed OneKnown.client.keys [.quote] OneKnown.symbols {} ∧
    OneKnown.symbols.size = 101 ∧
    ∃ (urls : List Url) (handed : UrlSet) (first last : List Symbol),
      Request.stockUrls OneKnown.client.config OneKnown.client.keys [.quote] OneKnown.symbols {} =
        .ok urls ∧
      handed.items.Perm urls ∧ handed.size = 2 ∧
      Request.Partition OneKnown.symbols [first, last] ∧
      first.length = 100 ∧ last.length = 1 := by
  obtain ⟨urls, handed, pieces, hurls, hperm, -, hsize, hpartition, -⟩ :=
    request_partitioned OneKnown.env .free OneKnown.client [.quote] OneKnown.symbols {} {}
      OneKnown.wellFormed
  have hcount := hpartition.count
  rw [OneKnown.symbols_size] at hsize hcount
  obtain ⟨first, last, rfl⟩ := List.length_eq_two.mp hcount
  have hfirst : first.length = 100 := hpartition.full first (by simp)
  have hlast : first.length + last.length = 101 := by
    simpa using hpartition.whole.length_eq.trans OneKnown.symbols_size
  exact ⟨OneKnown.wellFormed, OneKnown.symbols_size, urls, handed, first, last, hurls, hperm,
    hsize, hpartition, hfirst, by omega⟩

end MarketData
