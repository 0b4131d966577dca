import Mathlib.Data.List.Induction
import MarketData.Market.Sections
import MarketData.Proofs.SortedMap

/-! Stock data gathered from responses. An object and null can be merged, anything else ends the
merge with an error about its format (`StockData.ofResponses_of_isAnswer`,
`StockData.ofResponses_error`). Where the responses do not contradict each other, each says for a
symbol what one function `f` of symbols says or nothing at all, and what is gathered from them is
`f` on the symbols they know of, in whatever order they come and however they share the symbols
among them (`StockData.represents_of_agrees`). -/

namespace MarketData

/-- A response that can be merged. -/
def Json.Value.IsAnswer (v : Json.Value) : Prop := v = .null ∨ ∃ members, v = .object members

namespace StockData

variable {endpoints : List Endpoint} {symbols : SymbolSet} {data : StockData}
  {response found : Json.Value} {responses : List Json.Value}

/-! ## One response -/

/-- The section of an endpoint, if it is there and not null. -/
def sectionOf? (found : Json.Value) (endpoint : Endpoint) : Option Json.Value :=
  (found.member? endpoint.path).filter (!·.isNull)

theorem sectionOf?_eq_some_iff {endpoint : Endpoint} {v : Json.Value} :
    sectionOf? found endpoint = some v ↔ found.member? endpoint.path = some v ∧ v ≠ .null := by
  rw [sectionOf?, Option.filter_eq_some_iff]
  cases v <;> simp [Json.Value.isNull]

/-- Adds one section, if it is there and not null. -/
def addSection (found : Json.Value) (sections : Sections) (endpoint : Endpoint) : Sections :=
  (sectionOf? found endpoint).elim sections (sections.insert endpoint)

theorem addSections_cons (first : Endpoint) (sections : Sections) :
    addSections (first :: endpoints) found sections =
      addSections endpoints found (addSection found sections first) := by
  unfold addSections addSection sectionOf?
  rw [List.foldl_cons]
  cases (found.member? first.path).filter (!·.isNull) <;> rfl

theorem get?_addSection (sections : Sections) (first endpoint : Endpoint) :
    (addSection found sections first).get? endpoint =
      (if endpoint = first then sectionOf? found endpoint else none).or
        (sections.get? endpoint) := by
  unfold addSection
  by_cases heq : endpoint = first
  · subst heq
    cases sectionOf? found endpoint <;> simp [SortedMap.get?_insert]
  · cases sectionOf? found first <;> simp [SortedMap.get?_insert, heq]

theorem get?_addSections (sections : Sections) (endpoint : Endpoint) :
    (addSections endpoints found sections).get? endpoint =
      (if endpoint ∈ endpoints then sectionOf? found endpoint else none).or
        (sections.get? endpoint) := by
  induction endpoints generalizing sections with
  | nil => rfl
  | cons first endpoints ih =>
    rw [addSections_cons, ih, get?_addSection, ← Option.or_assoc]
    by_cases heq : endpoint = first
    · subst heq
      by_cases hmem : endpoint ∈ endpoints <;> simp [hmem]
    · by_cases hmem : endpoint ∈ endpoints <;> simp [heq, hmem]

/-- The sections of a symbol that are asked for. -/
def sectionsOf (endpoints : List Endpoint) (found : Json.Value) : Sections :=
  addSections endpoints found ∅

theorem get?_sectionsOf {endpoint : Endpoint} {v : Json.Value} :
    (sectionsOf endpoints found).get? endpoint = some v ↔
      endpoint ∈ endpoints ∧ found.member? endpoint.path = some v ∧ v ≠ .null := by
  rw [sectionsOf, get?_addSections, SortedMap.get?_empty, Option.or_none,
    ← sectionOf?_eq_some_iff]
  split <;> simp [*]

/-- The same sections added again change nothing. -/
theorem addSections_sectionsOf :
    addSections endpoints found (sectionsOf endpoints found) = sectionsOf endpoints found := by
  refine SortedMap.ext_get? fun endpoint => ?_
  rw [sectionsOf, get?_addSections, get?_addSections, SortedMap.get?_empty, Option.or_none]
  exact Option.or_self

/-- Adds what a response holds for the symbols asked for. -/
def addAnswer (endpoints : List Endpoint) (symbols : SymbolSet) (data : StockData)
    (response : Json.Value) : StockData :=
  symbols.items.foldl (addSymbol endpoints response) data

theorem get?_addSymbol (s s' : Symbol) :
    (addSymbol endpoints response data s').get? s =
      if s = s' then
        ((response.member? s.text).map (addSections endpoints · (data.getD s ∅))).or (data.get? s)
      else data.get? s := by
  unfold addSymbol
  by_cases heq : s = s'
  · subst heq
    split
    · simp [*]
    · simp [*, SortedMap.get?_insert]
  · split
    · simp [heq]
    · simp [heq, SortedMap.get?_insert]

theorem get?_addAnswer (s : Symbol) :
    (addAnswer endpoints symbols data response).get? s =
      if s ∈ symbols.items then
        ((response.member? s.text).map (addSections endpoints · (data.getD s ∅))).or (data.get? s)
      else data.get? s := by
  obtain ⟨items, hnodup⟩ := symbols
  unfold addAnswer
  simp only
  induction items generalizing data with
  | nil => simp
  | cons first items ih =>
    obtain ⟨hfirst, hnodup⟩ := List.nodup_cons.mp hnodup
    rw [List.foldl_cons, ih hnodup]
    by_cases heq : s = first
    · subst heq
      rw [if_neg hfirst, if_pos List.mem_cons_self, get?_addSymbol, if_pos rfl]
    · have hsame : (addSymbol endpoints response data first).get? s = data.get? s := by
        rw [get?_addSymbol, if_neg heq]
      simp only [SortedMap.getD, hsame, List.mem_cons, heq, false_or]

/-! ## Many responses -/

theorem addResponse_of_isAnswer (h : response.IsAnswer) :
    addResponse endpoints symbols data response =
      .ok (addAnswer endpoints symbols data response) := by
  rcases h with rfl | ⟨members, rfl⟩
  · refine congrArg Except.ok (SortedMap.ext_get? fun s => ?_)
    rw [get?_addAnswer]
    split <;> rfl
  · rfl

theorem addResponse_of_not_isAnswer (h : ¬ response.IsAnswer) :
    ∃ reason, addResponse endpoints symbols data response = .error (.format reason) := by
  cases response with
  | null => exact absurd (.inl rfl) h
  | object members => exact absurd (.inr ⟨members, rfl⟩) h
  | _ => exact ⟨_, rfl⟩

theorem ofResponses_of_isAnswer (h : ∀ response ∈ responses, response.IsAnswer) :
    ofResponses endpoints symbols responses =
      .ok (responses.foldl (addAnswer endpoints symbols) ∅) := by
  unfold ofResponses
  generalize (∅ : StockData) = data
  induction responses generalizing data with
  | nil => rfl
  | cons response responses ih =>
    obtain ⟨hfirst, hrest⟩ := List.forall_mem_cons.mp h
    rw [List.foldlM_cons, addResponse_of_isAnswer hfirst]
    exact ih hrest _

/-- A response that cannot be merged fails all. -/
theorem ofResponses_error (hmem : response ∈ responses) (h : ¬ response.IsAnswer) :
    ∃ reason, ofResponses endpoints symbols responses = .error (.format reason) := by
  unfold ofResponses
  generalize (∅ : StockData) = data
  induction responses generalizing data with
  | nil => simp at hmem
  | cons first responses ih =>
    rw [List.foldlM_cons]
    by_cases hfirst : first.IsAnswer
    · rw [addResponse_of_isAnswer hfirst]
      refine ih ?_ _
      rcases List.mem_cons.mp hmem with rfl | hmem
      · exact absurd hfirst h
      · exact hmem
    · have hfails : ∃ reason,
          addResponse endpoints symbols data first = .error (.format reason) :=
        addResponse_of_not_isAnswer hfirst
      obtain ⟨reason, herror⟩ := hfails
      exact ⟨reason, by rw [herror]; rfl⟩

/-! ## Responses that agree -/

variable {f : Symbol → Option Json.Value}

/-- The data are `f` on the symbols and endpoints asked for: a symbol that `f` knows has an entry,
which holds the sections that are there and not null, and there is nothing else. -/
structure Represents (endpoints : List Endpoint) (symbols : SymbolSet)
    (f : Symbol → Option Json.Value) (data : StockData) : Prop where
  symbol : ∀ s, (∃ sections, data.get? s = some sections) ↔
    s ∈ symbols.items ∧ ∃ found, f s = some found
  section_iff : ∀ s found sections, f s = some found → data.get? s = some sections →
    ∀ endpoint v, sections.get? endpoint = some v ↔
      endpoint ∈ endpoints ∧ found.member? endpoint.path = some v ∧ v ≠ .null

/-- Of what is asked for, a response says nothing but what `f` says. -/
def Agrees (symbols : SymbolSet) (f : Symbol → Option Json.Value) (response : Json.Value) : Prop :=
  (∃ members, response = .object members) ∧
    ∀ s ∈ symbols.items, ∀ found, response.member? s.text = some found → f s = some found

theorem Agrees.isAnswer (h : Agrees symbols f response) : response.IsAnswer := .inr h.1

/-- `f` on the symbols asked for that a response was heard about. -/
theorem get?_foldl_addAnswer (h : ∀ response ∈ responses, Agrees symbols f response) (s : Symbol) :
    (responses.foldl (addAnswer endpoints symbols) ∅).get? s =
      if s ∈ symbols.items ∧ ∃ response ∈ responses, (response.member? s.text).isSome then
        (f s).map (sectionsOf endpoints)
      else none := by
  induction responses using List.reverseRecOn with
  | nil => simp
  | append_singleton responses response ih =>
    obtain ⟨hold, hnew⟩ := List.forall_mem_append.mp h
    have hagrees := (List.forall_mem_singleton.mp hnew).2
    rw [List.foldl_append, List.foldl_cons, List.foldl_nil, get?_addAnswer]
    by_cases hs : s ∈ symbols.items
    · have ih := ih hold
      cases hmember : response.member? s.text with
      | none =>
        rw [if_pos hs, ih]
        simp [hs, hmember]
      | some found =>
        have hf := hagrees s hs found hmember
        have hnow : s ∈ symbols.items ∧
            ∃ r ∈ responses ++ [response], (r.member? s.text).isSome :=
          ⟨hs, response, by simp, by rw [hmember]; rfl⟩
        rw [if_pos hs, if_pos hnow, hf, SortedMap.getD, ih, hf]
        split
        · simp [addSections_sectionsOf]
        · simp [sectionsOf]
    · simp [hs, ih hold]

/-- Whatever the order of the responses, what is gathered is `f`, if each symbol that `f` knows is
in one of them. -/
theorem represents_of_agrees (h : ∀ response ∈ responses, Agrees symbols f response)
    (hall : ∀ s ∈ symbols.items, ∀ found, f s = some found →
      ∃ response ∈ responses, response.member? s.text = some found) :
    ∃ data, ofResponses endpoints symbols responses = .ok data ∧
      data.Represents endpoints symbols f := by
  have hget : ∀ s, (responses.foldl (addAnswer endpoints symbols) ∅).get? s =
      if s ∈ symbols.items then (f s).map (sectionsOf endpoints) else none := by
    intro s
    rw [get?_foldl_addAnswer h]
    by_cases hs : s ∈ symbols.items
    · cases hf : f s with
      | none => simp
      | some found =>
        obtain ⟨response, hmem, hmember⟩ := hall s hs found hf
        have hheard : ∃ response ∈ responses, (response.member? s.text).isSome :=
          ⟨response, hmem, by rw [hmember]; rfl⟩
        rw [if_pos ⟨hs, hheard⟩, if_pos hs]
    · simp [hs]
  refine ⟨_, ofResponses_of_isAnswer fun response hmem => (h response hmem).isAnswer, ?_, ?_⟩
  · intro s
    rw [hget]
    by_cases hs : s ∈ symbols.items
    · simp [hs]
    · simp [hs]
  · intro s found sections hf hsections endpoint v
    rw [hget, hf] at hsections
    split at hsections
    · cases hsections
      exact get?_sectionsOf
    · contradiction

/-- There is one such data. -/
theorem Represents.unique {data data' : StockData} (h : data.Represents endpoints symbols f)
    (h' : data'.Represents endpoints symbols f) : data = data' := by
  refine SortedMap.ext_get? fun s => ?_
  cases hget : data.get? s with
  | none =>
    cases hget' : data'.get? s with
    | none => rfl
    | some sections =>
      obtain ⟨sections, hsome⟩ := (h.symbol s).mpr ((h'.symbol s).mp ⟨_, hget'⟩)
      rw [hget] at hsome
      contradiction
  | some sections =>
    have hknown := (h.symbol s).mp ⟨_, hget⟩
    obtain ⟨sections', hget'⟩ := (h'.symbol s).mpr hknown
    obtain ⟨-, found, hf⟩ := hknown
    rw [hget']
    refine congrArg some (SortedMap.ext_get? fun endpoint => Option.ext fun v => ?_)
    rw [h.section_iff s found sections hf hget, h'.section_iff s found sections' hf hget']

/-- Responses that agree on `f` bring the data that represent it. -/
theorem ofResponses_of_represents (hdata : data.Represents endpoints symbols f)
    (h : ∀ response ∈ responses, Agrees symbols f response)
    (hall : ∀ s ∈ symbols.items, ∀ found, f s = some found →
      ∃ response ∈ responses, response.member? s.text = some found) :
    ofResponses endpoints symbols responses = .ok data := by
  have hgathered : ∃ data, ofResponses endpoints symbols responses = .ok data ∧
      data.Represents endpoints symbols f := represents_of_agrees h hall
  obtain ⟨data', hdata', hrepresents⟩ := hgathered
  rw [hdata', hrepresents.unique hdata]

end StockData

end MarketData
