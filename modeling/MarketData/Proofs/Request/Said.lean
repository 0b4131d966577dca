import Mathlib.Data.List.TakeWhile
import MarketData.Proofs.Request.Valid

/-! What a URL says to its reader. Reading cuts the fragment off, takes the query after the first
`?`, splits it at `&` and ends each name at its first `=` (`Url.said`). Values are escaped, keys are
not: a URL says the parameters it was made of if no key holds one of these characters
(`Url.said_query`). Then no option adds to what signs a request. -/

namespace MarketData

namespace Url

/-- A parameter as it is read. -/
def saidPair (text : List Char) : String × String :=
  (String.ofList (text.takeWhile (· != '=')), String.ofList ((text.dropWhile (· != '=')).drop 1))

/-- The query as it is read, name by name. -/
def said (url : Url) : List (String × String) :=
  match (url.text.toList.takeWhile (· != '#')).dropWhile (· != '?') with
  | [] => []
  | _ :: query => (query.splitOn '&').map saidPair

/-- All values that are said under a name. -/
def valuesOf (url : Url) (name : String) : List String :=
  (url.said.filter (·.1 = name)).map (·.2)

end Url

/-! ## Escaped text -/

namespace Percent

/-- Characters that end or separate parts of a query. -/
def isDelimiter (c : Char) : Bool := c == '&' || c == '=' || c == '#'

theorem isPlain_hexDigit : ∀ n < 16, isPlain (hexDigit n) = true := by decide

theorem isPlain_of_mem_encodeChar {c d : Char} (h : d ∈ encodeChar c) :
    isPlain d = true ∨ d = '%' := by
  unfold encodeChar at h
  split at h
  · rename_i hplain
    rw [List.mem_singleton] at h
    exact .inl (h ▸ hplain)
  · obtain ⟨b, -, hd⟩ := List.mem_flatMap.mp h
    have hb : b.toNat < 256 := b.toNat_lt
    simp only [encodeByte, List.mem_cons, List.not_mem_nil, or_false] at hd
    rcases hd with rfl | rfl | rfl
    · exact .inr rfl
    · exact .inl (isPlain_hexDigit _ (by omega))
    · exact .inl (isPlain_hexDigit _ (by omega))

theorem isDelimiter_of_isPlain {c : Char} (h : isPlain c = true) : isDelimiter c = false := by
  by_contra hdelimiter
  simp only [isDelimiter, Bool.not_eq_false, Bool.or_eq_true, beq_iff_eq] at hdelimiter
  rcases hdelimiter with (rfl | rfl) | rfl <;> revert h <;> decide

/-- Escaped text holds no delimiter. -/
theorem isDelimiter_of_mem_encode {s : String} {c : Char} (h : c ∈ (encode s).toList) :
    isDelimiter c = false := by
  rw [encode, String.toList_ofList] at h
  obtain ⟨d, -, hc⟩ := List.mem_flatMap.mp h
  rcases isPlain_of_mem_encodeChar hc with hplain | rfl
  · exact isDelimiter_of_isPlain hplain
  · decide

end Percent

/-! ## Reading what was written -/

/-- Text that reading takes for one word. -/
def Word (s : String) : Prop := ∀ c ∈ s.toList, Percent.isDelimiter c = false

instance : DecidablePred Word := fun s => List.decidableBAll _ s.toList

theorem Word.encode (s : String) : Word (Percent.encode s) :=
  fun _ => Percent.isDelimiter_of_mem_encode

theorem mem_intercalate {c : Char} {separator : List Char} {words : List (List Char)}
    (h : c ∈ separator.intercalate words) : c ∈ separator ∨ ∃ word ∈ words, c ∈ word := by
  induction words with
  | nil => simp at h
  | cons word words ih =>
    cases words with
    | nil => exact .inr ⟨word, by simp, by simpa using h⟩
    | cons word' words =>
      rw [List.intercalate_cons_cons, List.mem_append, List.mem_append] at h
      rcases h with (h | h) | h
      · exact .inr ⟨word, by simp, h⟩
      · exact .inl h
      · exact (ih h).imp_right fun ⟨w, hw, hc⟩ => ⟨w, List.mem_cons_of_mem _ hw, hc⟩

theorem Word.not_mem {s : String} (h : Word s) {c : Char} (hc : Percent.isDelimiter c = true) :
    c ∉ s.toList := fun hmem => by
  rw [h c hmem] at hc
  contradiction

/-- The only delimiter in a parameter is the `=` between key and value. -/
theorem Word.not_mem_pair {key value : String} (hkey : Word key) (hvalue : Word value) {c : Char}
    (hc : Percent.isDelimiter c = true) (hne : c ≠ '=') :
    c ∉ key.toList ++ '=' :: value.toList := by
  simp only [List.mem_append, List.mem_cons, not_or]
  exact ⟨hkey.not_mem hc, hne, hvalue.not_mem hc⟩

/-- A list of escaped elements is a word; its commas are no delimiters. -/
theorem Word.list (elements : List String) :
    Word (",".intercalate (elements.map Percent.encode)) := by
  intro c hc
  rw [String.toList_intercalate, List.map_map] at hc
  rcases mem_intercalate hc with hcomma | ⟨_, hword, hc⟩
  · obtain rfl : c = ',' := by simpa using hcomma
    decide
  · obtain ⟨element, -, rfl⟩ := List.mem_map.mp hword
    exact Percent.isDelimiter_of_mem_encode hc

/-- A parameter ends at its first `=`. -/
theorem Url.saidPair_text {key value : String} (hkey : '=' ∉ key.toList) :
    saidPair (key.toList ++ '=' :: value.toList) = (key, value) := by
  have hbefore : ∀ c ∈ key.toList, (c != '=') = true := by
    intro c hc
    rw [bne_iff_ne]
    rintro rfl
    exact hkey hc
  rw [saidPair, List.takeWhile_append_of_pos hbefore, List.dropWhile_append_of_pos hbefore,
    List.takeWhile_cons_of_neg (by simp), List.dropWhile_cons_of_neg (by simp)]
  simp

namespace Params

variable {params : Params}

/-- Every key and every value is a word. -/
def Legible (params : Params) : Prop :=
  ∀ key value, params.values.get? key = some value → Word key ∧ Word value

theorem Legible.empty : Params.empty.Legible := by
  intro key value hget
  contradiction

theorem Legible.insert (h : params.Legible) {key value : String} (hkey : Word key)
    (hvalue : Word value) : (params.insert ⟨key, value⟩).Legible := by
  intro key' value' hget
  rw [get?_insert] at hget
  split at hget
  · rename_i hnew
    cases hget
    exact ⟨hnew.1 ▸ hkey, hvalue⟩
  · exact h key' value' hget

theorem Legible.foldl_insertPair (h : params.Legible) {pairs : List (String × String)}
    (hkeys : ∀ pair ∈ pairs, Word pair.1) : (pairs.foldl insertPair params).Legible := by
  induction pairs generalizing params with
  | nil => exact h
  | cons pair pairs ih =>
    obtain ⟨hkey, hkeys⟩ := List.forall_mem_cons.mp hkeys
    exact ih (h.insert hkey (.encode _)) hkeys

theorem query_toList (params : Params) : params.query.toList =
    ['&'].intercalate (params.entries.map fun p => p.1.toList ++ '=' :: p.2.toList) := by
  rw [query, String.toList_intercalate, List.map_map]
  congr 1
  simp [String.toList_append]

theorem Legible.not_mem_pair (h : params.Legible) {p : String × String} (hp : p ∈ params.entries)
    {c : Char} (hc : Percent.isDelimiter c = true) (hne : c ≠ '=') :
    c ∉ p.1.toList ++ '=' :: p.2.toList := by
  obtain ⟨hkey, hvalue⟩ := h p.1 p.2 (SortedMap.mem_entries.mp hp)
  exact hkey.not_mem_pair hvalue hc hne

/-- The query goes on to the end of the URL. -/
theorem Legible.not_mem_query (h : params.Legible) : '#' ∉ params.query.toList := by
  intro hmem
  rw [query_toList] at hmem
  rcases mem_intercalate hmem with hmem | ⟨_, hpair, hmem⟩
  · simp at hmem
  · obtain ⟨p, hp, rfl⟩ := List.mem_map.mp hpair
    exact h.not_mem_pair hp (by decide) (by decide) hmem

/-- A query falls apart into the parameters. -/
theorem splitOn_query (hne : params.entries ≠ [])
    (h : ∀ p ∈ params.entries, '&' ∉ p.1.toList ++ '=' :: p.2.toList) :
    params.query.toList.splitOn '&' =
      params.entries.map fun p => p.1.toList ++ '=' :: p.2.toList := by
  rw [query_toList]
  refine List.splitOn_intercalate _ (fun text htext => ?_) (by simpa using hne)
  obtain ⟨p, hp, rfl⟩ := List.mem_map.mp htext
  exact h p hp

end Params

namespace Url

variable {base : String} {params : Params}

/-- Neither query nor fragment. -/
def Bare (base : String) : Prop := ∀ c ∈ base.toList, c ≠ '?' ∧ c ≠ '#'

instance : DecidablePred Bare := fun base => List.decidableBAll _ base.toList

theorem Bare.append {path : String} (hbase : Bare base) (hpath : Bare path) :
    Bare (base ++ path) := by
  intro c hc
  rw [String.toList_append] at hc
  exact (List.mem_append.mp hc).elim (hbase c) (hpath c)

/-- A URL says the parameters it was made of. -/
theorem said_query (hbase : Bare base) (hlegible : params.Legible) (hne : params.entries ≠ []) :
    said ⟨base ++ "?" ++ params.query⟩ = params.entries := by
  have htext : (base ++ "?" ++ params.query).toList =
      base.toList ++ '?' :: params.query.toList := by
    simp [String.toList_append]
  have hwhole : (base.toList ++ '?' :: params.query.toList).takeWhile (· != '#') =
      base.toList ++ '?' :: params.query.toList := by
    refine List.takeWhile_eq_self_iff.mpr fun c hc => ?_
    rw [bne_iff_ne]
    rintro rfl
    simp only [List.mem_append, List.mem_cons, Char.reduceEq, false_or] at hc
    exact hc.elim (fun hc => (hbase _ hc).2 rfl) hlegible.not_mem_query
  have hquery : (base.toList ++ '?' :: params.query.toList).dropWhile (· != '?') =
      '?' :: params.query.toList := by
    rw [List.dropWhile_append_of_pos fun c hc => bne_iff_ne.mpr (hbase c hc).1,
      List.dropWhile_cons_of_neg (by simp)]
  have hsplit := Params.splitOn_query hne fun p hp =>
    hlegible.not_mem_pair hp (c := '&') (by decide) (by decide)
  rw [said, htext, hwhole, hquery]
  simp only [hsplit, List.map_map]
  refine (List.map_congr_left fun p hp => ?_).trans (List.map_id _)
  exact saidPair_text ((hlegible p.1 p.2 (SortedMap.mem_entries.mp hp)).1.not_mem (by decide))

/-- Under the name of a parameter, a URL says its value and nothing else. -/
theorem valuesOf_query (hbase : Bare base) (hlegible : params.Legible) {name value : String}
    (hget : params.values.get? name = some value) :
    valuesOf ⟨base ++ "?" ++ params.query⟩ name = [value] := by
  have hne : params.entries ≠ [] := List.ne_nil_of_mem (SortedMap.mem_entries.mpr hget)
  rw [valuesOf, said_query hbase hlegible hne, Params.entries, SortedMap.filter_key hget]
  rfl

end Url

/-! ## Requests -/

namespace Request

variable {config : ServiceConfig} {keys : Keys} {endpoints : List Endpoint}
  {symbols : List Symbol} {o : RequestOptions}

theorem bare_root (h : Url.Bare (config.baseUrl o.dataType)) : Url.Bare (root config o) := by
  refine h.append ?_
  cases o.version <;> decide

theorem endpointParams_legible (hkeys : ∀ pair ∈ o.options, Word pair.1) :
    (endpointParams keys o).Legible :=
  (Params.Legible.empty.insert (show Word "token" by decide) (.encode _)).foldl_insertPair hkeys

theorem stockParams_legible (hkeys : ∀ pair ∈ o.options, Word pair.1) :
    (stockParams keys endpoints symbols o).Legible := by
  refine Params.Legible.foldl_insertPair ?_ hkeys
  have hsymbols := Params.Legible.empty.insert (show Word "symbols" by decide)
    (.list (sortedDistinct (symbols.map (·.text))))
  have htypes := hsymbols.insert (show Word "types" by decide)
    (.list (sortedDistinct (endpoints.map (·.path))))
  exact htypes.insert (show Word "token" by decide) (.encode (keys.token o.dataType))

end Request

/-- **What signs a request stays.** If no option key holds a delimiter, a URL says the token once,
and that of a stock request also its symbols and types, whatever the options are. -/
theorem authentication_said (config : ServiceConfig) (keys : Keys) (o : RequestOptions)
    (hbase : Url.Bare (config.baseUrl o.dataType)) (hkeys : ∀ pair ∈ o.options, Word pair.1) :
    (∀ endpoint url, Request.endpointUrl config keys endpoint o = .ok url →
      url.valuesOf "token" = [Percent.encode (keys.token o.dataType)]) ∧
    ∀ endpoints symbols url, Request.stockUrl config keys endpoints symbols o = .ok url →
      url.valuesOf "token" = [Percent.encode (keys.token o.dataType)] ∧
      url.valuesOf "symbols" = [",".intercalate
        ((Request.sortedDistinct (symbols.map (·.text))).map Percent.encode)] ∧
      url.valuesOf "types" = [",".intercalate
        ((Request.sortedDistinct (endpoints.map (·.path))).map Percent.encode)] := by
  have hroot := Request.bare_root hbase
  refine ⟨fun endpoint url h => ?_, fun endpoints symbols url h => ?_⟩
  · obtain ⟨-, rfl⟩ := Request.endpointUrl_eq_ok_iff.mp h
    have hpath : Url.Bare (Request.root config o ++ "/" ++ endpoint.path) := by
      refine (hroot.append (by decide)).append ?_
      cases endpoint <;> decide
    exact Url.valuesOf_query hpath (Request.endpointParams_legible hkeys)
      Request.endpointParams_get?
  · obtain ⟨-, -, -, rfl⟩ := Request.stockUrl_eq_ok_iff.mp h
    have hpath : Url.Bare (Request.root config o ++ "/stock/market/batch") :=
      hroot.append (by decide)
    have hlegible : (Request.stockParams keys endpoints symbols o).Legible :=
      Request.stockParams_legible hkeys
    obtain ⟨htoken, hsymbols, htypes⟩ :
        (Request.stockParams keys endpoints symbols o).values.get? "token" = _ ∧ _ :=
      Request.stockParams_get?
    exact ⟨Url.valuesOf_query hpath hlegible htoken, Url.valuesOf_query hpath hlegible hsymbols,
      Url.valuesOf_query hpath hlegible htypes⟩

/-- An option of the name `token` is not said. -/
theorem authentication_said_ownName :
    Url.Bare (({} : ServiceConfig).baseUrl .authentic) ∧
    (∀ pair ∈ [("token", "other"), ("format", "json")], Word pair.1) ∧
    ∃ url, Request.endpointUrl {} { secretKey := "sk" } .systemStatus
        { options := [("token", "other"), ("format", "json")] } = .ok url ∧
      url.valuesOf "token" = [Percent.encode "sk"] := by
  have hbase : Url.Bare (({} : ServiceConfig).baseUrl .authentic) := by decide
  have hkeys : ∀ pair ∈ [("token", "other"), ("format", "json")], Word pair.1 := by decide
  have hmade : ∃ url, Request.endpointUrl {} { secretKey := "sk" } .systemStatus
      { options := [("token", "other"), ("format", "json")] } = .ok url := ⟨_, rfl⟩
  obtain ⟨url, hurl⟩ := hmade
  have hsaid := authentication_said {} { secretKey := "sk" }
    { options := [("token", "other"), ("format", "json")] } hbase hkeys
  exact ⟨hbase, hkeys, url, hurl, hsaid.1 .systemStatus url hurl⟩

/-- Keys are not escaped: an option whose key holds a separator adds a second token, and one whose
key begins a fragment takes the token away. -/
theorem authentication_tampered :
    Request.endpointUrl {} { secretKey := "sk" } .systemStatus { options := [("a&token", "b")] } =
      .ok ⟨"https://cloud.iexapis.com/stable/status?a&token=b&token=sk"⟩ ∧
    Url.valuesOf ⟨"https://cloud.iexapis.com/stable/status?a&token=b&token=sk"⟩ "token" =
      ["b", "sk"] ∧
    Request.endpointUrl {} { secretKey := "sk" } .systemStatus { options := [("#", "b")] } =
      .ok ⟨"https://cloud.iexapis.com/stable/status?#=b&token=sk"⟩ ∧
    Url.valuesOf ⟨"https://cloud.iexapis.com/stable/status?#=b&token=sk"⟩ "token" = [] := by
  exact ⟨rfl, rfl, rfl, rfl⟩

end MarketData
