import MarketData.Market.Client
import MarketData.Proofs.Batch.Course
import MarketData.Proofs.Request.Valid
import MarketData.Proofs.Stock.Merging

/-! Calls for stock data. A flawed request leaves the session as it was
(`Client.getStock_of_flawed`); any other runs one batch for the URLs of its chunks, under the policy
of the gate, and makes its result of what that batch brought (`Client.getStock_of_wellFormed`). -/

namespace MarketData

/-- A thread after any batches, in a process with this set-up, gate and clock. -/
def Session.after (setup : Setup) (log : List String) (batches : List Batch) (gate : Gate)
    (now : Instant) : Session :=
  ⟨{ setup, pool := (Engine.after {} batches).pool, log }, gate, now⟩

namespace Session

variable {setup : Setup} {log : List String} {batches : List Batch} {gate : Gate} {now : Instant}

theorem after_custody : (after setup log batches gate now).engine.pool.Custody [] :=
  Engine.after_custody .pending [] batches

/-- Under one configuration all handles are built from it. -/
theorem after_built {config : TransportConfig} :
    ∀ a ∈ (after setup log (batches.map (·.under config)) gate now).engine.pool.handles,
      a.config = config :=
  Engine.after_built (P := (· = config)) .pending [] _ (List.forall_mem_map.mpr fun _ _ => rfl)

end Session

/-! ## Tables in an order -/

namespace Environment

variable {env : Environment} {urls : List Url} {url : Url}

theorem mem_urlSet : url ∈ (env.urlSet urls).items ↔ url ∈ urls :=
  ((env.order .urls).perm _).mem_iff.trans Distinct.mem_ofList

theorem urlSet_single (env : Environment) (url : Url) : (env.urlSet [url]).items = [url] :=
  List.perm_singleton.mp ((env.order .urls).perm _)

/-- Two tables of the same URLs hand out the same. -/
theorem urlSet_perm_urlSet (env env' : Environment) (urls : List Url) :
    (env.urlSet urls).items.Perm (env'.urlSet urls).items :=
  ((env.order .urls).perm _).trans ((env'.order .urls).perm _).symm

theorem urlSet_isEmpty (hne : urls ≠ []) : (env.urlSet urls).isEmpty = false := by
  obtain ⟨url, hurl⟩ := List.exists_mem_of_ne_nil _ hne
  exact List.isEmpty_eq_false_iff.mpr (List.ne_nil_of_mem (mem_urlSet.mpr hurl))

theorem handOut_perm (env : Environment) (documents : SortedMap Url Json.Value) :
    (env.handOut documents).Perm (documents.entries.map (·.2)) :=
  ((env.order .documents).handOut_perm documents.sorted).map _

end Environment

/-- The documents of a batch, as their table hands them out. -/
def BatchRun.responses (env : Environment) (run : BatchRun) : List Json.Value :=
  env.handOut (SortedMap.ofList run.results.documents)

theorem BatchRun.responses_perm (env : Environment) (run : BatchRun) :
    (run.responses env).Perm (run.results.documents.map (·.2)) := by
  have hperm := env.handOut_perm (SortedMap.ofList run.results.documents)
  rwa [Results.ofList_documents_entries] at hperm

theorem BatchRun.mem_responses {env : Environment} {run : BatchRun} {document : Json.Value} :
    document ∈ run.responses env ↔ ∃ url, run.results.get? url = some document := by
  rw [(run.responses_perm env).mem_iff, List.mem_map]
  constructor
  · rintro ⟨⟨url, document⟩, hmem, rfl⟩
    exact ⟨url, Results.mem_documents.mp hmem⟩
  · rintro ⟨url, hget⟩
    exact ⟨(url, document), Results.mem_documents.mpr hget, rfl⟩

/-! ## Calls -/

namespace Client

variable {env : Environment} {footing : Footing} {c : Client} {endpoints : List Endpoint}
  {symbols : SymbolSet} {o : RequestOptions} {s : Session} {urls : List Url}

/-- The batch that a client runs for these URLs. -/
def batch (env : Environment) (c : Client) (config : TransportConfig) (urls : List Url)
    (s : Session) : Batch where
  env
  config
  urls := env.urlSet urls
  maxConnections := c.config.maxConnections
  policy := s.gate.policy

/-- What a client fetches for these URLs, on any thread. -/
def fetched (env : Environment) (footing : Footing) (c : Client) (urls : List Url) (s : Session) :
    BatchRun :=
  (s.engine.fetch env footing (env.urlSet urls) c.config.maxConnections s.gate.policy).1

/-- The engine that this leaves. -/
def left (env : Environment) (footing : Footing) (c : Client) (urls : List Url) (s : Session) :
    Engine :=
  (s.engine.fetch env footing (env.urlSet urls) c.config.maxConnections s.gate.policy).2

theorem perform_result : (c.perform env footing urls s).1.result =
    ((c.fetched env footing urls s).results.toExcept (env.order .results)).mapError
      fun e => .fetch e.message := by
  unfold perform
  generalize hfetch : s.gate.fetch env footing (env.urlSet urls) c.config.maxConnections
    s.engine s.now = fetched
  have hrun : fetched.1.1 = c.fetched env footing urls s := hfetch ▸ rfl
  rw [← hrun]
  cases hexcept : fetched.1.1.results.toExcept (env.order .results) <;> simp only [hexcept] <;> rfl

theorem perform_of_error {url : Url} {e : FetchError}
    (h : (c.fetched env footing urls s).results.entries.get? url = some (.error e)) :
    ∃ reason, (c.perform env footing urls s).1.result = .error (.fetch reason) := by
  obtain ⟨e', herror⟩ := Results.toExcept_of_error h (env.order .results)
  exact ⟨e'.message, by rw [perform_result, herror]; rfl⟩

theorem perform_of_isComplete (h : (c.fetched env footing urls s).results.isComplete = true) :
    (c.perform env footing urls s).1.result =
      .ok (SortedMap.ofList (c.fetched env footing urls s).results.documents) := by
  rw [perform_result, Results.toExcept_of_isComplete h]
  rfl

/-- A thread that can drive transfers runs the batch. -/
theorem fetched_of_free {config : TransportConfig} (hne : urls ≠ [])
    (hconfig : (s.engine.setup.install env.build {}).config = .ok config)
    (hfree : footing.obstacle? = none) :
    c.fetched env footing urls s = ((c.batch env config urls s).run (s.engine.ready env)).1 := by
  rw [fetched, Engine.fetch_of_free (Environment.urlSet_isEmpty hne) hconfig hfree]
  rfl

/-! ## Stock requests -/

theorem stockObjection?_eq_none_iff : stockObjection? endpoints symbols = none ↔
    (∀ endpoint ∈ endpoints, endpoint.isStock = true) ∧ symbols.items ≠ [] := by
  unfold stockObjection?
  cases hfind : endpoints.find? (!·.isStock) with
  | some basic =>
    have hbasic := List.find?_some hfind
    have hmem := List.mem_of_find?_eq_some hfind
    simp only [reduceCtorEq, false_iff, not_and]
    intro hall
    simp [hall basic hmem] at hbasic
  | none =>
    rw [List.find?_eq_none] at hfind
    have hall : ∀ endpoint ∈ endpoints, endpoint.isStock = true := fun endpoint hmem => by
      simpa using hfind endpoint hmem
    simp only [ite_eq_right_iff, reduceCtorEq, imp_false, Distinct.isEmpty, List.isEmpty_iff]
    exact ⟨fun hne => ⟨hall, hne⟩, fun h => h.2⟩

/-- A flawed request has no effect. -/
theorem getStock_of_flawed (h : Request.Flawed c.keys endpoints symbols o) :
    ∃ reason, c.getStock env footing endpoints symbols o s =
      (⟨.error (.invalidUrl reason), none⟩, s) := by
  unfold getStock
  cases hobjection : stockObjection? endpoints symbols with
  | some reason => exact ⟨reason, rfl⟩
  | none =>
    obtain ⟨hstock, hne⟩ := stockObjection?_eq_none_iff.mp hobjection
    cases hurls : Request.stockUrls c.config c.keys endpoints symbols o with
    | error fault => exact ⟨fault.message, rfl⟩
    | ok urls =>
      obtain ⟨htexts, hendpoints, hsignable⟩ := (Request.stockUrls_ok_iff hne).mp ⟨urls, hurls⟩
      exact absurd h (Request.not_flawed_iff.mpr ⟨hendpoints, hstock, hne, htexts, hsignable⟩)

theorem getStock_of_wellFormed (h : Request.WellFormed c.keys endpoints symbols o) :
    ∃ urls, Request.stockUrls c.config c.keys endpoints symbols o = .ok urls ∧ urls ≠ [] ∧
      (c.getStock env footing endpoints symbols o s).1.run =
        some (c.fetched env footing urls s) ∧
      (c.getStock env footing endpoints symbols o s).1.result =
        (c.perform env footing urls s).1.result >>= fun documents =>
          StockData.ofResponses endpoints symbols (env.handOut documents) := by
  have hmade : ∃ urls, Request.stockUrls c.config c.keys endpoints symbols o = .ok urls :=
    (Request.stockUrls_ok_iff h.symbols_ne).mpr ⟨h.texts, h.endpoints_ne, h.signable⟩
  obtain ⟨urls, hurls⟩ := hmade
  have hobjection := stockObjection?_eq_none_iff.mpr ⟨h.stock, h.symbols_ne⟩
  have hne : urls ≠ [] := Request.stockUrls_ne_nil h.symbols_ne hurls
  refine ⟨urls, hurls, hne, ?_, ?_⟩
  · simp only [getStock, hobjection, hurls]
    rfl
  · simp only [getStock, hobjection, hurls]

/-! ## What the fetched results decide -/

/-- The result of a stock request by what was fetched for it. -/
inductive Outcome (run : BatchRun) : Except ServiceError StockData → Prop
  | failed : run.results.entries.get? url = some (.error e) → Outcome run (.error (.fetch reason))
  | misshapen : run.results.isComplete = true → run.results.get? url = some v → ¬ v.IsAnswer →
    Outcome run (.error (.format reason))
  | gathered : run.results.isComplete = true →
    (∀ url v, run.results.get? url = some v → v.IsAnswer) → Outcome run (.ok data)

namespace Outcome

variable {run : BatchRun} {result : Except ServiceError StockData}

theorem ne_invalidUrl (h : Outcome run result) (reason : String) :
    result ≠ .error (.invalidUrl reason) := by
  cases h <;> simp

theorem fetch_iff (h : Outcome run result) : (∃ reason, result = .error (.fetch reason)) ↔
    ∃ url e, run.results.entries.get? url = some (.error e) := by
  cases h with
  | failed hget => exact iff_of_true ⟨_, rfl⟩ ⟨_, _, hget⟩
  | misshapen hcomplete | gathered hcomplete =>
    refine iff_of_false (by simp) ?_
    rintro ⟨url, e, hget⟩
    exact Results.isComplete_iff.mp hcomplete url e hget

theorem ok_iff (h : Outcome run result) : (∃ data, result = .ok data) ↔
    run.results.isComplete = true ∧ ∀ url v, run.results.get? url = some v → v.IsAnswer := by
  cases h with
  | failed hget =>
    refine iff_of_false (by simp) ?_
    rintro ⟨hcomplete, -⟩
    exact Results.isComplete_iff.mp hcomplete _ _ hget
  | misshapen _ hget hbad =>
    refine iff_of_false (by simp) ?_
    rintro ⟨-, hall⟩
    exact hbad (hall _ _ hget)
  | gathered hcomplete hall => exact iff_of_true ⟨_, rfl⟩ ⟨hcomplete, hall⟩

end Outcome

/-- What is gathered when all URLs brought documents. -/
theorem gather_of_isComplete (h : (c.fetched env footing urls s).results.isComplete = true) :
    ((c.perform env footing urls s).1.result >>= fun documents =>
      StockData.ofResponses endpoints symbols (env.handOut documents)) =
      StockData.ofResponses endpoints symbols
        ((c.fetched env footing urls s).responses env) := by
  rw [perform_of_isComplete h]
  rfl

theorem gather_outcome : Outcome (c.fetched env footing urls s)
    ((c.perform env footing urls s).1.result >>= fun documents =>
      StockData.ofResponses endpoints symbols (env.handOut documents)) := by
  cases hcomplete : (c.fetched env footing urls s).results.isComplete with
  | false =>
    have hfailed : ∃ url e,
        (c.fetched env footing urls s).results.entries.get? url = some (.error e) := by
      by_contra hnone
      push Not at hnone
      rw [Results.isComplete_iff.mpr hnone] at hcomplete
      contradiction
    obtain ⟨url, e, hget⟩ := hfailed
    obtain ⟨reason, hperform⟩ := perform_of_error hget
    rw [hperform]
    exact .failed hget
  | true =>
    rw [gather_of_isComplete hcomplete]
    by_cases hall : ∀ url v, (c.fetched env footing urls s).results.get? url = some v → v.IsAnswer
    · rw [StockData.ofResponses_of_isAnswer fun response hmem => ?_]
      · exact .gathered hcomplete hall
      · obtain ⟨url, hget⟩ := BatchRun.mem_responses.mp hmem
        exact hall url response hget
    · push Not at hall
      obtain ⟨url, v, hget, hbad⟩ := hall
      have hformat : ∃ reason, StockData.ofResponses endpoints symbols
          ((c.fetched env footing urls s).responses env) = .error (.format reason) :=
        StockData.ofResponses_error (BatchRun.mem_responses.mpr ⟨url, hget⟩) hbad
      obtain ⟨reason, hformat⟩ := hformat
      rw [hformat]
      exact .misshapen hcomplete hget hbad

end Client

end MarketData
