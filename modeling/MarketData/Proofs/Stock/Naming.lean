import MarketData.Proofs.Client.Apart
import MarketData.Proofs.Stock.Chunks

/-! Ways to name one stock request. Endpoints and symbols may be listed in any order and any number
of times: the URLs are the same (`Request.stockUrl_congr`, `Request.stockUrls_congr`), and so is
what is merged from responses (`StockData.ofResponses_congr`). Only a request for an endpoint that
is not one for stocks may show the order, in the endpoint that it is refused for
(`Client.SameEnd`). -/

namespace MarketData

/-- Both lists have the same members. -/
def SameMembers {α : Type} (xs ys : List α) : Prop := ∀ x, x ∈ xs ↔ x ∈ ys

namespace SameMembers

variable {α β : Type} {xs ys : List α}

theorem map (h : SameMembers xs ys) (f : α → β) : SameMembers (xs.map f) (ys.map f) := by
  intro y
  simp only [List.mem_map, h _]

theorem isEmpty_eq (h : SameMembers xs ys) : xs.isEmpty = ys.isEmpty := by
  rw [Bool.eq_iff_iff, List.isEmpty_iff, List.isEmpty_iff, List.eq_nil_iff_forall_not_mem,
    List.eq_nil_iff_forall_not_mem]
  simp only [h _]

end SameMembers

section

variable {endpoints endpoints' : List Endpoint} {symbols symbols' : SymbolSet}

/-! ## URLs -/

namespace Request

variable {config : ServiceConfig} {keys : Keys} {o : RequestOptions}

theorem stockUrl_congr {listed listed' : List Symbol}
    (hendpoints : SameMembers endpoints endpoints') (hlisted : SameMembers listed listed') :
    stockUrl config keys endpoints listed o = stockUrl config keys endpoints' listed' o := by
  unfold stockUrl
  rw [sortedDistinct_congr (hlisted.map (·.text)), sortedDistinct_congr (hendpoints.map (·.path))]

theorem symbolChunks_congr (h : SameMembers symbols.items symbols'.items) :
    symbolChunks symbols = symbolChunks symbols' := by
  unfold symbolChunks
  rw [sortedDistinct_congr h]

theorem stockUrls_congr (hendpoints : SameMembers endpoints endpoints')
    (hsymbols : SameMembers symbols.items symbols'.items) :
    stockUrls config keys endpoints symbols o = stockUrls config keys endpoints' symbols' o := by
  have hurl : ∀ chunk, stockUrl config keys endpoints chunk o =
      stockUrl config keys endpoints' chunk o := fun chunk =>
    stockUrl_congr hendpoints fun _ => Iff.rfl
  simp only [stockUrls, sortedDistinct_congr hsymbols, hurl]

end Request

/-! ## Merging -/

namespace StockData

variable {data : StockData} {f : Symbol → Option Json.Value}

theorem addSections_congr (h : SameMembers endpoints endpoints') (found : Json.Value)
    (sections : Sections) :
    addSections endpoints found sections = addSections endpoints' found sections := by
  apply SortedMap.ext_get?
  intro endpoint
  simp only [get?_addSections, h endpoint]

theorem addAnswer_congr (hendpoints : SameMembers endpoints endpoints')
    (hsymbols : SameMembers symbols.items symbols'.items) (data : StockData)
    (response : Json.Value) :
    addAnswer endpoints symbols data response = addAnswer endpoints' symbols' data response := by
  apply SortedMap.ext_get?
  intro s
  rw [get?_addAnswer, get?_addAnswer]
  simp only [hsymbols s, addSections_congr hendpoints]

theorem addResponse_congr (hendpoints : SameMembers endpoints endpoints')
    (hsymbols : SameMembers symbols.items symbols'.items) (data : StockData)
    (response : Json.Value) :
    addResponse endpoints symbols data response =
      addResponse endpoints' symbols' data response := by
  cases response with
  | object members =>
    exact congrArg Except.ok (addAnswer_congr hendpoints hsymbols data (.object members))
  | _ => rfl

theorem ofResponses_congr (hendpoints : SameMembers endpoints endpoints')
    (hsymbols : SameMembers symbols.items symbols'.items) (responses : List Json.Value) :
    ofResponses endpoints symbols responses = ofResponses endpoints' symbols' responses := by
  unfold ofResponses
  refine congrArg (fun step => responses.foldlM step ∅) ?_
  funext data response
  exact addResponse_congr hendpoints hsymbols data response

theorem Represents.congr (h : data.Represents endpoints symbols f)
    (hendpoints : SameMembers endpoints endpoints')
    (hsymbols : SameMembers symbols.items symbols'.items) :
    data.Represents endpoints' symbols' f where
  symbol := by
    intro s
    rw [h.symbol, hsymbols s]
  section_iff := by
    intro s found sections hf hget endpoint v
    rw [h.section_iff s found sections hf hget, hendpoints endpoint]

end StockData

theorem Network.TellsOf.congr {network : Network} {f : Symbol → Option Json.Value} {c : Client}
    {o : RequestOptions} (h : network.TellsOf f c endpoints symbols o)
    (hendpoints : SameMembers endpoints endpoints')
    (hsymbols : SameMembers symbols.items symbols'.items) :
    network.TellsOf f c endpoints' symbols' o := by
  intro chunk hchunk url hurl config log v hv
  rw [← Request.symbolChunks_congr hsymbols] at hchunk
  rw [← Request.stockUrl_congr hendpoints fun _ => Iff.rfl] at hurl
  obtain ⟨hobject, hown, hothers⟩ := h chunk hchunk url hurl config log v hv
  exact ⟨hobject, hown, fun s hs => hothers s ((hsymbols s).mpr hs)⟩

/-! ## Calls -/

namespace Client

/-- Two results are the same, or each tells an endpoint that is not one for stocks. -/
inductive SameEnd (endpoints : List Endpoint) :
    Except ServiceError StockData → Except ServiceError StockData → Prop
  | same : SameEnd endpoints result result
  | notStock : basic ∈ endpoints → basic.isStock = false → basic' ∈ endpoints →
    basic'.isStock = false →
    SameEnd endpoints (.error (.invalidUrl (basic.title ++ " is not a stock endpoint")))
      (.error (.invalidUrl (basic'.title ++ " is not a stock endpoint")))

variable {env env' : Environment} {footing : Footing} {c : Client} {o : RequestOptions}
  {s s' : Session} {f : Symbol → Option Json.Value} {data : StockData}

theorem SameEnd.ok_iff {result result' : Except ServiceError StockData}
    (h : SameEnd endpoints result result') : result = .ok data ↔ result' = .ok data := by
  cases h with
  | same => rfl
  | notStock => simp

theorem SameEnd.eq_of_singleton {endpoint : Endpoint}
    {result result' : Except ServiceError StockData} (h : SameEnd [endpoint] result result') :
    result = result' := by
  cases h with
  | same => rfl
  | notStock hmem _ hmem' _ =>
    obtain rfl := List.mem_singleton.mp hmem
    obtain rfl := List.mem_singleton.mp hmem'
    rfl

theorem stockObjection?_of_basic {basic : Endpoint} (hmem : basic ∈ endpoints)
    (hbasic : basic.isStock = false) (symbols : SymbolSet) : ∃ first ∈ endpoints,
      first.isStock = false ∧
      stockObjection? endpoints symbols = some (first.title ++ " is not a stock endpoint") := by
  unfold stockObjection?
  cases hfind : endpoints.find? (!·.isStock) with
  | none =>
    have hall := List.find?_eq_none.mp hfind basic hmem
    simp [hbasic] at hall
  | some first =>
    have hfirst := List.find?_some hfind
    exact ⟨first, List.mem_of_find?_eq_some hfind, by simpa using hfirst, rfl⟩

theorem stockObjection?_congr (hendpoints : SameMembers endpoints endpoints')
    (hsymbols : SameMembers symbols.items symbols'.items)
    (hstock : ∀ endpoint ∈ endpoints, endpoint.isStock = true) :
    stockObjection? endpoints symbols = stockObjection? endpoints' symbols' := by
  have hnone : endpoints.find? (!·.isStock) = none := by simpa using hstock
  have hnone' : endpoints'.find? (!·.isStock) = none := by
    simpa using fun endpoint hmem => hstock endpoint ((hendpoints endpoint).mpr hmem)
  unfold stockObjection? Distinct.isEmpty
  rw [hnone, hnone', hsymbols.isEmpty_eq]

/-- A request named in another way does the same. -/
theorem getStock_congr (hendpoints : SameMembers endpoints endpoints')
    (hsymbols : SameMembers symbols.items symbols'.items) (env : Environment) (footing : Footing)
    (c : Client) (o : RequestOptions) (s : Session) :
    let r := c.getStock env footing endpoints symbols o s
    let r' := c.getStock env footing endpoints' symbols' o s
    SameEnd endpoints r.1.result r'.1.result ∧ r.1.run = r'.1.run ∧ r.2 = r'.2 := by
  intro r r'
  by_cases hstock : ∀ endpoint ∈ endpoints, endpoint.isStock = true
  · have hsame : r = r' := by
      simp only [r, r', getStock, stockObjection?_congr hendpoints hsymbols hstock,
        Request.stockUrls_congr hendpoints hsymbols,
        StockData.ofResponses_congr hendpoints hsymbols]
    rw [hsame]
    exact ⟨.same, rfl, rfl⟩
  · push Not at hstock
    obtain ⟨basic, hmem, hbasic⟩ := hstock
    rw [ne_eq, Bool.not_eq_true] at hbasic
    obtain ⟨first, hfirst, hfirstBasic, hobjection⟩ :=
      stockObjection?_of_basic hmem hbasic symbols
    obtain ⟨first', hfirst', hfirstBasic', hobjection'⟩ :=
      stockObjection?_of_basic ((hendpoints basic).mp hmem) hbasic symbols'
    have hr : r =
        (⟨.error (.invalidUrl (first.title ++ " is not a stock endpoint")), none⟩, s) := by
      simp only [r, getStock, hobjection]
    have hr' : r' =
        (⟨.error (.invalidUrl (first'.title ++ " is not a stock endpoint")), none⟩, s) := by
      simp only [r', getStock, hobjection']
    rw [hr, hr']
    exact ⟨.notStock hfirst hfirstBasic ((hendpoints first').mpr hfirst') hfirstBasic', rfl, rfl⟩

/-- From a server that tells of each symbol what `f` has for it, a call that succeeds brings `f`, in
whatever order its documents are merged. -/
theorem getStock_represents (hpool : s.engine.pool.Custody [])
    (hserver : env.network.TellsOf f c endpoints symbols o)
    (hok : (c.getStock env footing endpoints symbols o s).1.result = .ok data) :
    data.Represents endpoints symbols f ∧
    ∃ run, (c.getStock env footing endpoints symbols o s).1.run = some run ∧
      ∀ responses, responses.Perm (run.results.documents.map (·.2)) →
        StockData.ofResponses endpoints symbols responses = .ok data := by
  by_cases hflawed : Request.Flawed c.keys endpoints symbols o
  · obtain ⟨reason, hrefused⟩ : ∃ reason, c.getStock env footing endpoints symbols o s =
      (⟨.error (.invalidUrl reason), none⟩, s) := getStock_of_flawed hflawed
    rw [hrefused] at hok
    contradiction
  obtain ⟨urls, hurls, hne, hrun, hresult⟩ :
      ∃ urls, Request.stockUrls c.config c.keys endpoints symbols o = .ok urls ∧ urls ≠ [] ∧
        (c.getStock env footing endpoints symbols o s).1.run =
          some (c.fetched env footing urls s) ∧ _ :=
    getStock_of_wellFormed (Request.not_flawed_iff.mp hflawed)
  rw [hresult] at hok
  have hcomplete : (c.fetched env footing urls s).results.isComplete = true :=
    (gather_outcome.ok_iff.mp ⟨data, hok⟩).1
  obtain ⟨data', hrepresents, hmerged⟩ := documents_represent hpool hurls hne hserver hcomplete
  rw [gather_of_isComplete hcomplete, hmerged _ (BatchRun.responses_perm env _)] at hok
  cases hok
  exact ⟨hrepresents, _, hrun, hmerged⟩

end Client

end

/-- **Naming does not matter.** Two requests name the same endpoints and the same symbols, in any
order and any number of times. They have the same URLs, or the same fault. In one session they do
the same and end alike. In two sessions of a process whose server brings the same at the n-th
attempt at each URL, the same is fetched after as many requests for each URL; they end alike if
tables are handed out in the same order, and else as one request does whose documents are merged in
two orders. If the server tells of each symbol what `f` has for it, calls that succeed bring the
same data, whatever the order in which documents are merged. -/
theorem stock_naming_irrelevant (endpoints endpoints' : List Endpoint)
    (hendpoints : SameMembers endpoints endpoints') :
    (∀ config keys o (listed listed' : List Symbol), SameMembers listed listed' →
      Request.stockUrl config keys endpoints listed o =
        Request.stockUrl config keys endpoints' listed' o) ∧
    ∀ (c : Client) (o : RequestOptions) (symbols symbols' : SymbolSet),
      symbols.items.Perm symbols'.items →
      Request.stockUrls c.config c.keys endpoints symbols o =
        Request.stockUrls c.config c.keys endpoints' symbols' o ∧
      (∀ env footing s,
        let r := c.getStock env footing endpoints symbols o s
        let r' := c.getStock env footing endpoints' symbols' o s
        Client.SameEnd endpoints r.1.result r'.1.result ∧ r.1.run = r'.1.run ∧ r.2 = r'.2) ∧
      ∀ setup log log' batches batches' policy last last' now now' footing env env',
        let s := Session.after setup log batches ⟨policy, last⟩ now
        let s' := Session.after setup log' batches' ⟨policy, last'⟩ now'
        let call := (c.getStock env footing endpoints symbols o s).1
        let call' := (c.getStock env' footing endpoints' symbols' o s').1
        (∀ replies, env.Brings s.engine.log replies → env'.Brings s'.engine.log replies →
          (setup = .pending → env.build {} = env'.build {}) →
          (env.order = env'.order → Client.SameEnd endpoints call.result call'.result) ∧
            (∃ result, SameStock Eq endpoints symbols call.documents call.result result ∧
              Client.SameEnd endpoints result call'.result) ∧
            Option.Rel BatchRun.Agrees call.run call'.run) ∧
        ∀ f, env.network.TellsOf f c endpoints symbols o →
          env'.network.TellsOf f c endpoints' symbols' o →
          ∀ data data', call.result = .ok data → call'.result = .ok data' → data' = data ∧
            ∃ run, call.run = some run ∧
              ∀ responses, responses.Perm (run.results.documents.map (·.2)) →
                StockData.ofResponses endpoints symbols responses = .ok data := by
  refine ⟨fun _ _ _ _ _ => Request.stockUrl_congr hendpoints, fun c o symbols symbols' hperm => ?_⟩
  have hsymbols : SameMembers symbols.items symbols'.items := fun _ => hperm.mem_iff
  refine ⟨Request.stockUrls_congr hendpoints hsymbols,
    fun env footing s => Client.getStock_congr hendpoints hsymbols env footing c o s, ?_⟩
  intro setup log log' batches batches' policy last last' now now' footing env env' s s' call call'
  have custody : s.engine.pool.Custody [] := Session.after_custody
  have custody' : s'.engine.pool.Custody [] := Session.after_custody
  constructor
  · intro replies hbrings hbrings' hbuild
    have hsetup : setup.install env.build {} = setup.install env'.build {} :=
      Setup.install_congr hbuild
    have hfetched : ∀ urls,
        (c.fetched env footing urls s).Agrees (c.fetched env' footing urls s') :=
      fun urls => Engine.fetch_agrees (env.urlSet_perm_urlSet env' urls) custody custody' hsetup
        hbrings hbrings'
    have hsame : c.SameFor o.dataType c := ⟨rfl, rfl⟩
    obtain ⟨halike, hordered, hrun⟩ := hsame.getStock_agrees endpoints symbols hfetched
    obtain ⟨hend, hnamed, -⟩ := Client.getStock_congr hendpoints hsymbols env' footing c o s'
    exact ⟨fun horder => hordered horder ▸ hend, ⟨_, halike, hend⟩, hnamed ▸ hrun⟩
  · intro f hserver hserver' data data' hok hok'
    obtain ⟨hrepresents, hmerged⟩ := Client.getStock_represents custody hserver hok
    obtain ⟨hrepresents', -⟩ := Client.getStock_represents custody' hserver' hok'
    exact ⟨hrepresents'.unique (hrepresents.congr hendpoints hsymbols), hmerged⟩

/-! Two endpoints and two symbols, in another order and some of them twice. -/
namespace NamedTwice

def twice : List Endpoint := [.company, .quote, .company]

def once : List Endpoint := [.quote, .company]

def backward : SymbolSet := ⟨[⟨"B"⟩, ⟨"A"⟩], by decide⟩

def forward : SymbolSet := ⟨[⟨"A"⟩, ⟨"B"⟩], by decide⟩

def session : Session := .after (.installed {}) [] [] ⟨Policy.service, none⟩ 0

def data : StockData :=
  SortedMap.insert ∅ ⟨"A"⟩ (SortedMap.insert ∅ .quote (.number (.integer 1)))

theorem sameEndpoints : SameMembers twice once := by
  intro endpoint
  cases endpoint <;> decide

set_option maxRecDepth 2000 in
theorem backward_result :
    (OneKnown.client.getStock OneKnown.env .free twice backward {} session).1.result =
      .ok data := by
  rfl

end NamedTwice

open NamedTwice OneKnown in
theorem stock_naming_irrelevant_twice :
    SameMembers twice once ∧ backward.items.Perm forward.items ∧
    Request.stockUrl client.config client.keys twice (⟨"B"⟩ :: backward.items ++ [⟨"B"⟩]) {} =
      Request.stockUrl client.config client.keys once forward.items {} ∧
    (client.getStock env .free twice backward {} session).1.result = .ok data ∧
    (client.getStock env .free once forward {} session).1.result = .ok data ∧
    env.network.TellsOf known client twice backward {} ∧
    ∃ run, (client.getStock env .free twice backward {} session).1.run = some run ∧
      ∀ responses, responses.Perm (run.results.documents.map (·.2)) →
        StockData.ofResponses twice backward responses = .ok data := by
  obtain ⟨hurl, hcalls⟩ := stock_naming_irrelevant twice once sameEndpoints
  have hperm : backward.items.Perm forward.items := .swap ..
  have hlisted : SameMembers (⟨"B"⟩ :: backward.items ++ [⟨"B"⟩]) forward.items := by
    intro s
    simp only [backward, forward, List.cons_append, List.nil_append, List.mem_cons,
      List.not_mem_nil, or_false]
    tauto
  obtain ⟨-, hsession, hsessions⟩ := hcalls client {} backward forward hperm
  have hbackward := backward_result
  unfold session at hbackward ⊢
  obtain ⟨hend, -, -⟩ := hsession env .free (.after (.installed {}) [] [] ⟨Policy.service, none⟩ 0)
  have hresult := hend.ok_iff.mp hbackward
  obtain ⟨-, hserver⟩ :=
    hsessions (.installed {}) [] [] [] [] .service none none 0 0 .free env env
  obtain ⟨-, hmerged⟩ :=
    hserver known (tellsOf _) (tellsOf _) data data hbackward hresult
  exact ⟨sameEndpoints, hperm, hurl _ _ _ _ _ hlisted, hbackward, hresult, tellsOf _, hmerged⟩

end MarketData
