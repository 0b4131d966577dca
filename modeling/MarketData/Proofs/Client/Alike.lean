import Mathlib.Data.List.Forall2
import MarketData.Proofs.Client.Endpoint
import MarketData.Proofs.Request.Signing
import MarketData.Proofs.Stock.Split

/-! Calls that end alike. Two calls for the same, whose URLs correspond, both end without a fetch or
both fetch these URLs (`Client.get_cases`, `Client.getStock_cases`). Two batches have results that
are alike if the same documents are among them, and failures that correspond (`Results.Alike`). The
order in which hash tables hand them out does not count, so that which of several contradicting
documents comes through may differ, and the order in which failures are told (`SameStock`). -/

namespace MarketData

/-- The lists correspond, element by element, when each is put in some order. -/
def Matched {α β : Type} (R : α → β → Prop) (l : List α) (l' : List β) : Prop :=
  ∃ m m', m.Perm l ∧ m'.Perm l' ∧ List.Forall₂ R m m'

namespace Matched

variable {α β γ δ : Type} {R : α → β → Prop} {S : γ → δ → Prop} {l k : List α} {l' k' : List β}

theorem perm (h : Matched R l l') (hl : l.Perm k) (hl' : l'.Perm k') : Matched R k k' := by
  obtain ⟨m, m', hm, hm', heach⟩ := h
  exact ⟨m, m', hm.trans hl, hm'.trans hl', heach⟩

theorem filterMap {f : α → Option γ} {g : β → Option δ} (h : Matched R l l')
    (hfg : ∀ a b, R a b → Option.Rel S (f a) (g b)) :
    Matched S (l.filterMap f) (l'.filterMap g) := by
  obtain ⟨m, m', hm, hm', heach⟩ := h
  exact ⟨_, _, hm.filterMap f, hm'.filterMap g, List.rel_filterMap (fun a b => @hfg a b) heach⟩

theorem length_eq (h : Matched R l l') : l.length = l'.length := by
  obtain ⟨m, m', hm, hm', heach⟩ := h
  rw [← hm.length_eq, heach.length_eq, hm'.length_eq]

theorem perm_of_eq {l l' : List α} (h : Matched Eq l l') : l.Perm l' := by
  obtain ⟨m, m', hm, hm', heach⟩ := h
  rw [List.forall₂_eq_eq_eq] at heach
  exact hm.symm.trans (heach ▸ hm')

theorem refl (l : List α) : Matched Eq l l :=
  ⟨l, l, .refl l, .refl l, List.forall₂_eq_eq_eq ▸ rfl⟩

end Matched

variable {R : Url × FetchError → Url × FetchError → Prop} {endpoints : List Endpoint}
  {symbols : SymbolSet}

/-! ## Results -/

/-- As many failures, which correspond, in any two orders. -/
structure BatchError.Alike (R : Url × FetchError → Url × FetchError → Prop) (e e' : BatchError) :
    Prop where
  failures : Matched R e.failures e'.failures
  total : e.total = e'.total

/-- The same documents, and failures that correspond. -/
structure Results.Alike (R : Url × FetchError → Url × FetchError → Prop) (r r' : Results) :
    Prop where
  failures : Matched R r.failures r'.failures
  documents : (r.documents.map (·.2)).Perm (r'.documents.map (·.2))
  size : r.size = r'.size

namespace Results

variable {r r' : Results}

theorem Alike.refl (r : Results) : r.Alike Eq r := ⟨.refl _, .refl _, rfl⟩

/-- Results that are alike are both complete, or the failures told of them are alike. -/
theorem Alike.rollUp (h : r.Alike R r') (order order' : HashOrder Url) :
    (r.isComplete = true ∧ r'.isComplete = true) ∨
    ∃ e e', r.toExcept order = .error e ∧ r'.toExcept order' = .error e' ∧ e.Alike R e' := by
  have hlength := h.failures.length_eq
  by_cases hnone : r.failures = []
  · have hnone' : r'.failures = [] := by
      rw [hnone] at hlength
      exact List.eq_nil_of_length_eq_zero hlength.symm
    refine .inl ⟨?_, ?_⟩
    · exact isComplete_iff.mpr fun url e hget => by simpa [hnone] using mem_failures.mpr hget
    · exact isComplete_iff.mpr fun url e hget => by simpa [hnone'] using mem_failures.mpr hget
  · have hsome' : r'.failures ≠ [] := by
      intro hnone'
      rw [hnone'] at hlength
      exact hnone (List.eq_nil_of_length_eq_zero hlength)
    obtain ⟨failures, hperm, herror⟩ := toExcept_of_failures hnone order
    obtain ⟨failures', hperm', herror'⟩ := toExcept_of_failures hsome' order'
    exact .inr ⟨_, _, herror, herror', ⟨h.failures.perm hperm.symm hperm'.symm, h.size⟩⟩

end Results

/-! ## Calls -/

/-- The same result, or failures to fetch that are alike. -/
inductive SameResult (R : Url × FetchError → Url × FetchError → Prop) {α : Type} :
    Except ServiceError α → Except ServiceError α → Prop
  | same : SameResult R x x
  | fetch : BatchError.Alike R e e' →
    SameResult R (.error (.fetch e.message)) (.error (.fetch e'.message))

/-- The documents of the batch behind a call. -/
def Call.documents {α : Type} (call : Call α) : List Json.Value :=
  call.run.elim [] fun run => run.results.documents.map (·.2)

/-- The results of two stock requests that were brought the same documents, where all that may
differ besides is the order in which these are merged. Which of several sections or flaws comes
through depends on that. -/
inductive SameStock (R : Url × FetchError → Url × FetchError → Prop) (endpoints : List Endpoint)
    (symbols : SymbolSet) (documents : List Json.Value) :
    Except ServiceError StockData → Except ServiceError StockData → Prop
  | same : SameStock R endpoints symbols documents x x
  | fetch : BatchError.Alike R e e' →
    SameStock R endpoints symbols documents (.error (.fetch e.message))
      (.error (.fetch e'.message))
  | gathered : merged.Perm documents → merged'.Perm documents →
    StockData.ofResponses endpoints symbols merged = .ok data →
    StockData.ofResponses endpoints symbols merged' = .ok data' →
    SameStock R endpoints symbols documents (.ok data) (.ok data')
  | misshapen : merged.Perm documents → merged'.Perm documents →
    StockData.ofResponses endpoints symbols merged = .error (.format reason) →
    StockData.ofResponses endpoints symbols merged' = .error (.format reason') →
    SameStock R endpoints symbols documents (.error (.format reason)) (.error (.format reason'))

theorem SameStock.of_perm {documents merged merged' : List Json.Value} (h : merged.Perm documents)
    (h' : merged'.Perm documents) :
    SameStock R endpoints symbols documents (StockData.ofResponses endpoints symbols merged)
      (StockData.ofResponses endpoints symbols merged') := by
  by_cases hall : ∀ document ∈ documents, document.IsAnswer
  · have hmerged : StockData.ofResponses endpoints symbols merged =
        .ok (merged.foldl (StockData.addAnswer endpoints symbols) ∅) :=
      StockData.ofResponses_of_isAnswer fun document hmem => hall document (h.mem_iff.mp hmem)
    have hmerged' : StockData.ofResponses endpoints symbols merged' =
        .ok (merged'.foldl (StockData.addAnswer endpoints symbols) ∅) :=
      StockData.ofResponses_of_isAnswer fun document hmem => hall document (h'.mem_iff.mp hmem)
    have hsame := SameStock.gathered (R := R) h h' hmerged hmerged'
    rwa [← hmerged, ← hmerged'] at hsame
  · push Not at hall
    obtain ⟨document, hmem, hbad⟩ := hall
    have hformat : ∃ reason, StockData.ofResponses endpoints symbols merged =
        .error (.format reason) := StockData.ofResponses_error (h.mem_iff.mpr hmem) hbad
    have hformat' : ∃ reason, StockData.ofResponses endpoints symbols merged' =
        .error (.format reason) := StockData.ofResponses_error (h'.mem_iff.mpr hmem) hbad
    obtain ⟨reason, hreason⟩ := hformat
    obtain ⟨reason', hreason'⟩ := hformat'
    rw [hreason, hreason']
    exact .misshapen h h' hreason hreason'

namespace Client

variable {env env' : Environment} {footing : Footing} {c c' : Client} {o : RequestOptions}
  {s s' : Session} {urls urls' : List Url}

/-- Two clients are asked for the same endpoint. If the URLs that they make for it correspond, both
are told the same without a fetch, or both what came of these. -/
theorem get_cases {S : Url → Url → Prop} {endpoint : Endpoint} (c c' : Client)
    (h : Steps.Both S (Request.endpointUrl c.config c.keys endpoint o)
      (Request.endpointUrl c'.config c'.keys endpoint o))
    (env env' : Environment) (footing : Footing) (s s' : Session) :
    let call := (c.get env footing endpoint o s).1
    let call' := (c'.get env' footing endpoint o s').1
    (call = call' ∧ call.run = none) ∨ ∃ url url', S url url' ∧
      call.run = some (c.fetched env footing [url] s) ∧
      call'.run = some (c'.fetched env' footing [url'] s') ∧
      (∀ entry, (c.fetched env footing [url] s).results.entries.entries = [(url, entry)] →
        Told endpoint url entry call.result) ∧
      ∀ entry, (c'.fetched env' footing [url'] s').results.entries.entries = [(url', entry)] →
        Told endpoint url' entry call'.result := by
  intro call call'
  cases hbasic : endpoint.isStock with
  | true =>
    simp only [call, call', get, hbasic, if_true]
    exact .inl ⟨trivial, trivial⟩
  | false =>
    generalize hmade : Request.endpointUrl c.config c.keys endpoint o = made at h
    generalize hmade' : Request.endpointUrl c'.config c'.keys endpoint o = made' at h
    cases h with
    | error =>
      simp only [call, call', get, hbasic, hmade, hmade']
      exact .inl ⟨rfl, rfl⟩
    | ok hsame =>
      obtain ⟨hrun, -, htold⟩ := get_of_url env footing s hbasic hmade
      obtain ⟨hrun', -, htold'⟩ := get_of_url env' footing s' hbasic hmade'
      exact .inr ⟨_, _, hsame, hrun, hrun', htold, htold'⟩

/-- A call for stock data that performs these URLs. -/
def gather (env : Environment) (footing : Footing) (c : Client) (endpoints : List Endpoint)
    (symbols : SymbolSet) (urls : List Url) (s : Session) : Call StockData :=
  let call := (c.perform env footing urls s).1
  ⟨do StockData.ofResponses endpoints symbols (env.handOut (← call.result)), call.run⟩

/-- Two clients are asked for the same stock data. If the URLs that they make for it correspond,
both are told the same without a fetch, or both fetch these. -/
theorem getStock_cases {S : List Url → List Url → Prop} (c c' : Client)
    (h : Steps.Both S (Request.stockUrls c.config c.keys endpoints symbols o)
      (Request.stockUrls c'.config c'.keys endpoints symbols o))
    (env env' : Environment) (footing : Footing) (s s' : Session) :
    let call := (c.getStock env footing endpoints symbols o s).1
    let call' := (c'.getStock env' footing endpoints symbols o s').1
    (call = call' ∧ call.run = none) ∨ ∃ urls urls', symbols.items ≠ [] ∧
      Request.stockUrls c.config c.keys endpoints symbols o = .ok urls ∧
      Request.stockUrls c'.config c'.keys endpoints symbols o = .ok urls' ∧ S urls urls' ∧
      call = c.gather env footing endpoints symbols urls s ∧
      call' = c'.gather env' footing endpoints symbols urls' s' := by
  intro call call'
  cases hobjection : stockObjection? endpoints symbols with
  | some reason =>
    simp only [call, call', getStock, hobjection]
    exact .inl ⟨trivial, trivial⟩
  | none =>
    obtain ⟨-, hsymbols⟩ := stockObjection?_eq_none_iff.mp hobjection
    generalize hmade : Request.stockUrls c.config c.keys endpoints symbols o = made at h
    generalize hmade' : Request.stockUrls c'.config c'.keys endpoints symbols o = made' at h
    simp only [call, call', getStock, hobjection, hmade, hmade']
    cases h with
    | error => exact .inl ⟨rfl, rfl⟩
    | ok heach => exact .inr ⟨_, _, hsymbols, rfl, rfl, heach, rfl, rfl⟩

/-- Stock data that are gathered from results that are alike. -/
theorem gather_same (h : (c.fetched env footing urls s).results.Alike R
      (c'.fetched env' footing urls' s').results) :
    let call := c.gather env footing endpoints symbols urls s
    let call' := c'.gather env' footing endpoints symbols urls' s'
    SameStock R endpoints symbols call.documents call.result call'.result := by
  intro call call'
  rcases h.rollUp (env.order .results) (env'.order .results) with
    ⟨hcomplete, hcomplete'⟩ | ⟨e, e', herror, herror', he⟩
  · have hresponses := (c.fetched env footing urls s).responses_perm env
    have hresponses' := (c'.fetched env' footing urls' s').responses_perm env'
    have hresult : call.result = _ := gather_of_isComplete hcomplete
    have hresult' : call'.result = _ := gather_of_isComplete hcomplete'
    rw [hresult, hresult']
    exact .of_perm hresponses (hresponses'.trans h.documents.symm)
  · simp only [call, call', gather, perform_result, herror, herror']
    exact .fetch he

/-- If the server tells of each symbol what `f` has for it, no order shows in the data. -/
theorem gather_same_of_tellsOf {f : Symbol → Option Json.Value}
    (h : (c.fetched env footing urls s).results.Alike R
      (c'.fetched env' footing urls' s').results)
    (hpool : s.engine.pool.Custody [])
    (hurls : Request.stockUrls c.config c.keys endpoints symbols o = .ok urls) (hne : urls ≠ [])
    (hserver : env.network.TellsOf f c endpoints symbols o) :
    SameResult R (c.gather env footing endpoints symbols urls s).result
      (c'.gather env' footing endpoints symbols urls' s').result := by
  rcases h.rollUp (env.order .results) (env'.order .results) with
    ⟨hcomplete, hcomplete'⟩ | ⟨e, e', herror, herror', he⟩
  · have hresponses := (c.fetched env footing urls s).responses_perm env
    have hresponses' := (c'.fetched env' footing urls' s').responses_perm env'
    obtain ⟨data, -, hmerged⟩ := documents_represent hpool hurls hne hserver hcomplete
    have hresult : (c.gather env footing endpoints symbols urls s).result = .ok data :=
      (gather_of_isComplete hcomplete).trans (hmerged _ hresponses)
    have hresult' : (c'.gather env' footing endpoints symbols urls' s').result = .ok data :=
      (gather_of_isComplete hcomplete').trans
        (hmerged _ (hresponses'.trans h.documents.symm))
    rw [hresult, hresult']
    exact .same
  · simp only [gather, perform_result, herror, herror']
    exact .fetch he

end Client

end MarketData
