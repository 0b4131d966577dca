import MarketData.Proofs.Stock.Call

/-! Stock requests of any size. A request is split into chunks, each asked for by a URL of its own,
and every document that comes back is read for all symbols of the request. If the server tells of a
symbol what one function `f` of symbols has for it, in whichever chunk it is asked, the call brings
`f` on the symbols asked for, as a single request for all of them would. -/

namespace MarketData

namespace Engine

variable {env : Environment} {footing : Footing} {urls : UrlSet} {maxConnections : Nat}
  {policy : Policy} {e : Engine}

/-- Documents for all URLs are brought by a batch only. -/
theorem fetch_eq_run_of_isComplete (hne : urls.items ≠ [])
    (h : (e.fetch env footing urls maxConnections policy).1.results.isComplete = true) :
    ∃ config, e.fetch env footing urls maxConnections policy =
      Batch.run { env, config, urls, maxConnections, policy } (e.ready env) := by
  have hempty : urls.isEmpty = false := List.isEmpty_eq_false_iff.mpr hne
  obtain ⟨url, hurl⟩ := List.exists_mem_of_ne_nil _ hne
  have hfails (error : FetchError) : (Results.allFailed urls error).isComplete ≠ true := fun h =>
    Results.isComplete_iff.mp h url error (by rw [Results.get?_allFailed, if_pos hurl])
  cases hsetup : (e.setup.install env.build {}).config with
  | error reason =>
    rw [fetch_of_setup_error hempty hsetup] at h
    exact absurd h (hfails _)
  | ok config =>
    cases hfooting : footing.obstacle? with
    | some reason =>
      rw [fetch_of_obstacle hempty hsetup hfooting] at h
      exact absurd h (hfails _)
    | none => exact ⟨config, fetch_of_free hempty hsetup hfooting⟩

end Engine

/-- A server that tells of each symbol what `f` has for it. Asked for the URL of a chunk, whatever
it was asked before, it answers with an object, if with a document at all; that holds the symbols of
the chunk that `f` knows, and of the others that are requested it says nothing else than `f`. -/
def Network.TellsOf (network : Network) (f : Symbol → Option Json.Value) (c : Client)
    (endpoints : List Endpoint) (symbols : SymbolSet) (o : RequestOptions) : Prop :=
  ∀ chunk ∈ Request.symbolChunks symbols, ∀ url,
    Request.stockUrl c.config c.keys endpoints chunk o = .ok url →
    ∀ config log v, network.entry config log url = .ok v →
      (∃ members, v = .object members) ∧ (∀ s ∈ chunk, v.member? s.text = f s) ∧
        ∀ s ∈ symbols.items, ∀ found, v.member? s.text = some found → f s = some found

/-- Nothing keeps a call from the documents of these URLs: the thread can drive transfers, the
transport is set up, no handle is refused, and each request for one of them brings a document. -/
structure Environment.Serves (env : Environment) (footing : Footing) (setup : Setup)
    (urls : List Url) : Prop where
  free : footing.obstacle? = none
  installed : ∃ config, (setup.install env.build {}).config = .ok config
  accepted : ∀ config, ∀ url ∈ urls, env.refuse config url = none
  answered : ∀ config log, ∀ url ∈ urls, ∃ v, env.network.entry config log url = .ok v

namespace Client

variable {env : Environment} {footing : Footing} {c : Client} {endpoints : List Endpoint}
  {symbols : SymbolSet} {o : RequestOptions} {s : Session} {urls : List Url}
  {f : Symbol → Option Json.Value}

theorem fetched_isComplete (hpool : s.engine.pool.Custody []) (hne : urls ≠ [])
    (hserves : env.Serves footing s.engine.setup urls) :
    (c.fetched env footing urls s).results.isComplete = true := by
  obtain ⟨config, hconfig⟩ := hserves.installed
  have hfetched : c.fetched env footing urls s =
      ((c.batch env config urls s).run (s.engine.ready env)).1 :=
    fetched_of_free hne hconfig hserves.free
  have hpool' : (s.engine.ready env).pool.Custody [] := hpool
  rw [hfetched, Results.isComplete_iff]
  intro url e hget
  by_cases hurl : url ∈ urls
  · obtain ⟨entry, hentry, horigin⟩ := (c.batch env config urls s).run_origin hpool'
      (Environment.mem_urlSet.mpr hurl)
    obtain rfl : entry = .error e := Option.some.inj (hentry.symm.trans hget)
    rcases horigin.refused_or_answered with ⟨fault, hrefuse, -⟩ | ⟨config', log, hanswer⟩
    · cases (hserves.accepted config url hurl).symm.trans hrefuse
    · obtain ⟨v, hv⟩ := hserves.answered config' log url hurl
      cases hv.symm.trans hanswer
  · rw [Batch.run_get?_of_not_mem hpool' fun hmem => hurl (Environment.mem_urlSet.mp hmem)] at hget
    cases hget

/-- If all URLs brought documents, these are what the network answered at requests for them. -/
theorem fetched_answered (hpool : s.engine.pool.Custody []) (hne : urls ≠ [])
    (hcomplete : (c.fetched env footing urls s).results.isComplete = true) :
    (∀ url ∈ urls, ∃ v, (c.fetched env footing urls s).results.get? url = some v) ∧
    ∀ url v, (c.fetched env footing urls s).results.get? url = some v →
      url ∈ urls ∧ ∃ config log, env.network.entry config log url = .ok v := by
  have hne' : (env.urlSet urls).items ≠ [] :=
    List.isEmpty_eq_false_iff.mp (Environment.urlSet_isEmpty hne)
  obtain ⟨config, hrun⟩ := Engine.fetch_eq_run_of_isComplete hne' hcomplete
  have hfetched : c.fetched env footing urls s =
      ((c.batch env config urls s).run (s.engine.ready env)).1 := congrArg Prod.fst hrun
  have hpool' : (s.engine.ready env).pool.Custody [] := hpool
  rw [hfetched] at hcomplete ⊢
  refine ⟨fun url hurl => ?_, fun url v hget => ?_⟩
  · obtain ⟨entry, hentry, -⟩ :=
      (c.batch env config urls s).run_origin hpool' (Environment.mem_urlSet.mpr hurl)
    cases entry with
    | error e => exact absurd hentry (Results.isComplete_iff.mp hcomplete url e)
    | ok v => exact ⟨v, Results.get?_eq_some_iff.mpr hentry⟩
  · rw [Results.get?_eq_some_iff] at hget
    have hurl : url ∈ (env.urlSet urls).items := by
      by_contra hnot
      rw [Batch.run_get?_of_not_mem hpool' hnot] at hget
      cases hget
    obtain ⟨entry, hentry, horigin⟩ := (c.batch env config urls s).run_origin hpool' hurl
    obtain rfl : entry = .ok v := Option.some.inj (hentry.symm.trans hget)
    refine ⟨Environment.mem_urlSet.mp hurl, ?_⟩
    rcases horigin.refused_or_answered with ⟨fault, -, herror⟩ | hanswer
    · cases herror
    · exact hanswer

/-- The documents fetched for the chunks agree, and each symbol is in one of them. -/
theorem documents_agree (hpool : s.engine.pool.Custody [])
    (hurls : Request.stockUrls c.config c.keys endpoints symbols o = .ok urls) (hne : urls ≠ [])
    (hserver : env.network.TellsOf f c endpoints symbols o)
    (hcomplete : (c.fetched env footing urls s).results.isComplete = true) :
    (∀ v ∈ (c.fetched env footing urls s).results.documents.map (·.2),
      StockData.Agrees symbols f v) ∧
    ∀ a ∈ symbols.items, ∀ found, f a = some found →
      ∃ v ∈ (c.fetched env footing urls s).results.documents.map (·.2),
        v.member? a.text = some found := by
  obtain ⟨hall, hanswered⟩ := fetched_answered hpool hne hcomplete
  refine ⟨fun v hmem => ?_, fun a ha found hf => ?_⟩
  · obtain ⟨⟨url, v⟩, hdocument, rfl⟩ := List.mem_map.mp hmem
    obtain ⟨hurl, config, log, hanswer⟩ := hanswered url v (Results.mem_documents.mp hdocument)
    obtain ⟨chunk, hchunk, hmade⟩ := Steps.exists_of_mem_right hurls hurl
    obtain ⟨hobject, -, hothers⟩ := hserver chunk hchunk url hmade config log v hanswer
    exact ⟨hobject, hothers⟩
  · obtain ⟨chunk, hchunk, hin⟩ := Request.mem_symbols_iff.mp ha
    obtain ⟨url, hurl, hmade⟩ := Steps.exists_of_mem_left hurls hchunk
    obtain ⟨v, hget⟩ := hall url hurl
    obtain ⟨-, config, log, hanswer⟩ := hanswered url v hget
    obtain ⟨-, hown, -⟩ := hserver chunk hchunk url hmade config log v hanswer
    refine ⟨v, List.mem_map_of_mem (f := (·.2)) (Results.mem_documents.mpr hget), ?_⟩
    rw [hown a hin, hf]

/-- Documents for all chunks represent `f`, in whatever order they are merged. -/
theorem documents_represent (hpool : s.engine.pool.Custody [])
    (hurls : Request.stockUrls c.config c.keys endpoints symbols o = .ok urls) (hne : urls ≠ [])
    (hserver : env.network.TellsOf f c endpoints symbols o)
    (hcomplete : (c.fetched env footing urls s).results.isComplete = true) :
    ∃ data : StockData, data.Represents endpoints symbols f ∧
      ∀ responses, responses.Perm ((c.fetched env footing urls s).results.documents.map (·.2)) →
        StockData.ofResponses endpoints symbols responses = .ok data := by
  obtain ⟨hagree, hheard⟩ := documents_agree hpool hurls hne hserver hcomplete
  obtain ⟨data, -, hrepresents⟩ := StockData.represents_of_agrees hagree hheard
  refine ⟨data, hrepresents, fun responses hperm => ?_⟩
  refine StockData.ofResponses_of_represents hrepresents
    (fun v hmem => hagree v (hperm.mem_iff.mp hmem)) fun a ha found hf => ?_
  obtain ⟨v, hmem, hmember⟩ := hheard a ha found hf
  exact ⟨v, hperm.mem_iff.mpr hmem, hmember⟩

end Client

/-- **Splitting is invisible.** A server tells of each symbol what `f` has for it. If nothing keeps
the call from the server, every URL of the request brings a document. And if they all do, the call
brings `f` on the symbols and endpoints asked for: in whatever order the documents are merged, and
as one document for all symbols would. -/
theorem stock_split_invisible (setup : Setup) (log : List String) (batches : List Batch)
    (gate : Gate) (now : Instant) (env : Environment) (footing : Footing) (c : Client)
    (endpoints : List Endpoint) (symbols : SymbolSet) (o : RequestOptions)
    (f : Symbol → Option Json.Value)
    (hrequest : Request.WellFormed c.keys endpoints symbols o)
    (hserver : env.network.TellsOf f c endpoints symbols o) :
    let call := (c.getStock env footing endpoints symbols o
      (Session.after setup log batches gate now)).1
    ∃ urls run, Request.stockUrls c.config c.keys endpoints symbols o = .ok urls ∧
      call.run = some run ∧
      (env.Serves footing setup urls → run.results.isComplete = true) ∧
      (run.results.isComplete = true →
        ∃ data, call.result = .ok data ∧ data.Represents endpoints symbols f ∧
          (∀ responses, responses.Perm (run.results.documents.map (·.2)) →
            StockData.ofResponses endpoints symbols responses = .ok data) ∧
          ∀ whole, (∃ members, whole = .object members) →
            (∀ s ∈ symbols.items, whole.member? s.text = f s) →
            StockData.ofResponses endpoints symbols [whole] = .ok data) := by
  intro call
  obtain ⟨urls, hurls, hne, hrun, hresult⟩ :
      ∃ urls, Request.stockUrls c.config c.keys endpoints symbols o = .ok urls ∧ urls ≠ [] ∧ _ :=
    Client.getStock_of_wellFormed hrequest
  refine ⟨urls, _, hurls, hrun, Client.fetched_isComplete Session.after_custody hne,
    fun hcomplete => ?_⟩
  obtain ⟨data, hrepresents, hmerged⟩ :=
    Client.documents_represent Session.after_custody hurls hne hserver hcomplete
  rw [Client.gather_of_isComplete hcomplete] at hresult
  have hdata := hmerged _ (BatchRun.responses_perm env _)
  refine ⟨data, hresult.trans hdata, hrepresents, hmerged, fun whole hobject hwhole => ?_⟩
  refine StockData.ofResponses_of_represents hrepresents
    (List.forall_mem_singleton.mpr ⟨hobject, fun a ha found hmember => ?_⟩)
    fun a ha found hf => ⟨whole, List.mem_singleton_self _, ?_⟩
  · rw [← hwhole a ha, hmember]
  · rw [hwhole a ha, hf]

/-! A server that knows one symbol, whatever it is asked. -/
namespace OneKnown

def document : Json.Value := .object [("A", .object [("quote", .number (.integer 1))])]

/-- The document as it is sent. -/
def body : Bytes :=
  [0x7B, 0x22, 0x41, 0x22, 0x3A, 0x7B, 0x22, 0x71, 0x75, 0x6F, 0x74, 0x65, 0x22, 0x3A, 0x31, 0x7D,
    0x7D]

def env : Environment where
  network := .ofScript fun _ _ => ⟨[body], .done⟩

def client : Client := ⟨{ secretKey := "sk" }, {}⟩

def known (s : Symbol) : Option Json.Value := document.member? s.text

/-- One symbol more than fit one request. -/
def symbols : SymbolSet :=
  Distinct.ofList ((List.range 101).map fun n => ⟨String.ofList (List.replicate (n + 1) 'A')⟩)

theorem answered (config : TransportConfig) (log : List String) (url : Url) :
    env.network.entry config log url = .ok document := by
  rfl

theorem tellsOf {c : Client} {endpoints : List Endpoint} {o : RequestOptions}
    (symbols : SymbolSet) :
    env.network.TellsOf known c endpoints symbols o := by
  intro chunk _ url _ config log v hv
  rw [answered] at hv
  cases hv
  exact ⟨⟨_, rfl⟩, fun s _ => rfl, fun s _ found hfound => hfound⟩

theorem serves (urls : List Url) : env.Serves .free (.installed {}) urls where
  free := rfl
  installed := ⟨_, rfl⟩
  accepted := fun _ _ _ => rfl
  answered := fun config log url _ => ⟨_, answered config log url⟩

theorem wellFormed : Request.WellFormed client.keys [.quote] symbols {} where
  endpoints_ne := by decide
  stock := by decide
  symbols_ne := List.ne_nil_of_mem (Distinct.mem_ofList.mpr (List.mem_map_of_mem
    (List.mem_range.mpr (show 0 < 101 by decide))))
  texts := by
    intro s hs
    obtain ⟨n, -, rfl⟩ := List.mem_map.mp (Distinct.mem_ofList.mp hs)
    simp [List.replicate_succ]
  signable := ⟨by decide, by simp⟩

end OneKnown

theorem stock_split_invisible_oneKnown :
    Request.WellFormed OneKnown.client.keys [.quote] OneKnown.symbols {} ∧
    OneKnown.env.network.TellsOf OneKnown.known OneKnown.client [.quote] OneKnown.symbols {} ∧
    ∃ data, (OneKnown.client.getStock OneKnown.env .free [.quote] OneKnown.symbols {}
        (.after (.installed {}) [] [] ⟨Policy.service, none⟩ 0)).1.result = .ok data ∧
      data.Represents [.quote] OneKnown.symbols OneKnown.known := by
  obtain ⟨urls, run, -, -, hserved, hdata⟩ :=
    stock_split_invisible (.installed {}) [] [] ⟨Policy.service, none⟩ 0 OneKnown.env .free
      OneKnown.client [.quote] OneKnown.symbols {} OneKnown.known OneKnown.wellFormed
      (OneKnown.tellsOf _)
  obtain ⟨data, hok, hrepresents, -⟩ := hdata (hserved (OneKnown.serves urls))
  exact ⟨OneKnown.wellFormed, OneKnown.tellsOf _, data, hok, hrepresents⟩

/-- The empty symbol is refused, though the server tells of it what it has for every symbol. -/
theorem stock_split_emptySymbol :
    OneKnown.env.network.TellsOf OneKnown.known OneKnown.client [.quote] (.singleton ⟨""⟩) {} ∧
    Request.Signable OneKnown.client.keys {} ∧
    (OneKnown.client.getStock OneKnown.env .free [.quote] (.singleton ⟨""⟩) {}
        (.after (.installed {}) [] [] ⟨Policy.service, none⟩ 0)).1.result =
      .error (.invalidUrl "Empty Param list value") :=
  ⟨OneKnown.tellsOf _, ⟨by decide, by simp⟩, by rfl⟩

end MarketData
