import MarketData.CommandLine.Run
import MarketData.Proofs.Stock.Naming

/-! What the commands for stock data print. A command line for them has at least one symbol
(`Invocation.asks_ne_nil`). Nothing is printed if there is no token or transport, a symbol is empty,
a request fails or brings something that is no answer (`StockFailure`); otherwise one object is,
which shows what the server has for the symbols and nothing else (`Shows`), however they were listed
and asked for. -/

namespace MarketData

/-! ## One section by symbol -/

namespace StockData

variable {endpoint : Endpoint} {endpoints : List Endpoint} {symbols : SymbolSet}
  {f : Symbol → Option Json.Value} {data : StockData} {key : String} {v : Json.Value}

theorem pick_increasing (endpoint : Endpoint) (data : StockData) :
    ((data.pick endpoint).map (·.1)).Pairwise (· < ·) := by
  rw [List.pairwise_map]
  refine List.Pairwise.filterMap _ (fun a b hlt m hm m' hm' => ?_) data.sorted
  obtain ⟨v, -, rfl⟩ := Option.map_eq_some_iff.mp hm
  obtain ⟨v', -, rfl⟩ := Option.map_eq_some_iff.mp hm'
  exact compareOfLessAndEq_eq_lt.mp hlt

theorem mem_pick : (key, v) ∈ data.pick endpoint ↔
    ∃ sections, data.get? ⟨key⟩ = some sections ∧ sections.get? endpoint = some v := by
  simp only [pick, List.mem_filterMap, Option.map_eq_some_iff, Prod.mk.injEq]
  constructor
  · rintro ⟨⟨s, sections⟩, hentry, w, hsection, rfl, rfl⟩
    exact ⟨sections, SortedMap.mem_entries.mp hentry, hsection⟩
  · rintro ⟨sections, hget, hsection⟩
    exact ⟨(⟨key⟩, sections), SortedMap.mem_entries.mpr hget, v, hsection, rfl, rfl⟩

theorem Represents.mem_pick (h : data.Represents endpoints symbols f)
    (hmem : endpoint ∈ endpoints) : (key, v) ∈ data.pick endpoint ↔ ⟨key⟩ ∈ symbols.items ∧
      ∃ found, f ⟨key⟩ = some found ∧ found.member? endpoint.path = some v ∧ v ≠ .null := by
  rw [StockData.mem_pick]
  constructor
  · rintro ⟨sections, hget, hsection⟩
    obtain ⟨hsymbol, found, hf⟩ := (h.symbol ⟨key⟩).mp ⟨sections, hget⟩
    exact ⟨hsymbol, found, hf, ((h.section_iff _ found sections hf hget _ _).mp hsection).2⟩
  · rintro ⟨hsymbol, found, hf, hsection⟩
    obtain ⟨sections, hget⟩ := (h.symbol ⟨key⟩).mpr ⟨hsymbol, found, hf⟩
    exact ⟨sections, hget, (h.section_iff _ found sections hf hget _ _).mpr ⟨hmem, hsection⟩⟩

end StockData

namespace CommandLine

/-! ## Command lines -/

/-- The command asks for a stock endpoint of the companies with these tickers. -/
inductive Command.Asks : Command → Endpoint → List String → Prop
  | quote (tickers : List String) : Asks (.quote tickers) .quote tickers
  | company (tickers : List String) : Asks (.company tickers) .company tickers

section

variable {command : Command} {endpoint : Endpoint} {tickers : List String}
  {vars : List (String × String)} {words : List String} {g : Globals}

theorem Command.Asks.isStock (h : command.Asks endpoint tickers) : endpoint.isStock = true := by
  cases h <;> rfl

theorem Draft.asks_ne_nil {draft : Draft} {name : CommandName}
    (h : draft.command name = .ok command) (hasks : command.Asks endpoint tickers) :
    tickers ≠ [] := by
  cases name with
  | status | symbols =>
    cases h
    cases hasks
  | quote | company =>
    simp only [Draft.command, Draft.command.stock] at h
    split at h
    · cases h
    · rename_i hne
      cases h
      cases hasks
      exact List.isEmpty_iff.not.mp hne
  | get =>
    simp only [Draft.command] at h
    split at h
    · cases h
      cases hasks
    · cases h

theorem readCommand_drafted {name : CommandName} (h : readCommand name words = .ok (g, command)) :
    ∃ draft : Draft, draft.command name = .ok command := by
  obtain ⟨read, -, h⟩ := Steps.bind_eq_ok_iff.mp h
  obtain ⟨settled, -, h⟩ := Steps.bind_eq_ok_iff.mp h
  obtain ⟨command', hcommand, h⟩ := Steps.bind_eq_ok_iff.mp h
  cases h
  exact ⟨settled.draft, hcommand⟩

theorem readWords_drafted {p : Progress} (h : readWords words p = .ok ⟨g, some command⟩) :
    ∃ (draft : Draft) (name : CommandName), draft.command name = .ok command := by
  induction words generalizing p with
  | nil =>
    obtain ⟨settled, -, h⟩ := Steps.bind_eq_ok_iff.mp h
    cases h
  | cons word rest ih =>
    rw [readWords] at h
    split at h
    · obtain ⟨p', -, h⟩ := Steps.bind_eq_ok_iff.mp h
      exact ih h
    split at h
    · cases h
    split at h
    · obtain ⟨p', -, h⟩ := Steps.bind_eq_ok_iff.mp h
      exact ih h
    · rename_i name hname
      obtain ⟨⟨inner, command'⟩, hcommand, h⟩ := Steps.bind_eq_ok_iff.mp h
      obtain ⟨settled, -, h⟩ := Steps.bind_eq_ok_iff.mp h
      cases h
      obtain ⟨draft, hdraft⟩ := readCommand_drafted hcommand
      exact ⟨draft, name, hdraft⟩

theorem Invocation.asks_ne_nil (h : Invocation.read vars words = .ok ⟨g, some command⟩)
    (hasks : command.Asks endpoint tickers) : tickers ≠ [] := by
  obtain ⟨⟨g', command'⟩, hwords, h⟩ := Steps.bind_eq_ok_iff.mp h
  cases h
  obtain ⟨draft, name, hdraft⟩ := readWords_drafted hwords
  exact Draft.asks_ne_nil hdraft hasks

end

/-! ## The client of a command -/

/-- The client that the options stand for. -/
def Globals.service (g : Globals) : Client where
  keys := { secretKey := g.token.getD "", secretSandboxKey := g.sandboxToken.getD "" }
  config := g.baseUrl.elim {} ServiceConfig.ofBaseUrl

/-- The symbols that are asked for. -/
def requested (tickers : List String) : SymbolSet := Distinct.ofList (tickers.map Symbol.ofString)

end CommandLine

/-- The session once the set-up of the transport has been tried. -/
def Session.ready (env : Environment) (s : Session) : Session :=
  { s with engine := s.engine.ready env }

theorem Client.fetched_ready {env : Environment} {footing : Footing} {c : Client} {urls : List Url}
    {s : Session} : c.fetched env footing urls (s.ready env) = c.fetched env footing urls s := by
  simp only [fetched, Session.ready, Engine.ready, Engine.fetch, Setup.install_install]
  split <;> rfl

namespace CommandLine

variable {env : Environment} {g : Globals} {endpoint : Endpoint} {tickers : List String}
  {s : Session}

theorem mem_requested {symbol : Symbol} :
    symbol ∈ (requested tickers).items ↔ ∃ ticker ∈ tickers, Symbol.ofString ticker = symbol := by
  rw [requested, Distinct.mem_ofList, List.mem_map]

theorem Globals.keys_of_token (h : g.service.keys.token g.options.dataType ≠ "") :
    g.keys = .ok g.service.keys := by
  unfold Globals.keys
  cases hsandbox : g.sandbox <;>
  · simp only [service, options, hsandbox, Bool.false_eq_true, if_false, if_true,
      RequestOptions.sandbox, Keys.token] at h
    simp [h, service]

theorem Globals.keys_of_noToken (h : g.service.keys.token g.options.dataType = "") :
    ∃ r, g.keys = .error r := by
  unfold Globals.keys
  cases hsandbox : g.sandbox <;>
  · simp only [service, options, hsandbox, Bool.false_eq_true, if_false, if_true,
      RequestOptions.sandbox, Keys.token] at h
    simp [h]

theorem Globals.client_of_token {config : TransportConfig}
    (htoken : g.service.keys.token g.options.dataType ≠ "")
    (hconfig : (s.engine.setup.install env.build {}).config = .ok config) :
    g.client env s = .ok (g.service, s.ready env) := by
  rw [Globals.client, Globals.keys_of_token htoken]
  simp only [bind, Except.bind, Client.create, Engine.install, hconfig]
  rfl

theorem Globals.client_of_noToken (htoken : g.service.keys.token g.options.dataType = "") :
    ∃ r, g.client env s = .error r := by
  obtain ⟨r, hkeys⟩ := Globals.keys_of_noToken htoken
  exact ⟨r, by rw [Globals.client, hkeys]; rfl⟩

theorem Globals.client_of_noTransport {reason : String}
    (htoken : g.service.keys.token g.options.dataType ≠ "")
    (hconfig : (s.engine.setup.install env.build {}).config = .error reason) :
    ∃ r, g.client env s = .error r := by
  rw [Globals.client, Globals.keys_of_token htoken]
  simp only [bind, Except.bind, Client.create, Engine.install, hconfig]
  exact ⟨_, rfl⟩

/-! ## How a command ends -/

/-- What keeps a command from its data. -/
inductive StockFailure (env : Environment) (g : Globals) (endpoint : Endpoint)
    (tickers : List String) (s : Session) : Prop
  | noToken : g.service.keys.token g.options.dataType = "" →
    StockFailure env g endpoint tickers s
  | noTransport : (s.engine.setup.install env.build {}).config = .error reason →
    StockFailure env g endpoint tickers s
  | emptySymbol : ticker ∈ tickers → Upper.ofString ticker = "" →
    StockFailure env g endpoint tickers s
  | requestFailed : Request.stockUrls g.service.config g.service.keys [endpoint]
      (requested tickers) g.options = .ok urls →
    (g.service.fetched env .free urls s).results.entries.get? url = some (.error e) →
    StockFailure env g endpoint tickers s
  | noAnswer : Request.stockUrls g.service.config g.service.keys [endpoint]
      (requested tickers) g.options = .ok urls →
    (g.service.fetched env .free urls s).results.get? url = some v → ¬ v.IsAnswer →
    StockFailure env g endpoint tickers s

/-- The call for the data of a command. -/
def stockCall (env : Environment) (g : Globals) (endpoint : Endpoint) (tickers : List String)
    (s : Session) : Call StockData × Session :=
  g.service.getStock env .free [endpoint] (requested tickers) g.options (s.ready env)

/-- Nothing is wrong with the request of a command that has a token and no empty symbol. -/
theorem wellFormed_of_token (hstock : endpoint.isStock = true) (hne : tickers ≠ [])
    (htoken : g.service.keys.token g.options.dataType ≠ "")
    (htexts : ∀ ticker ∈ tickers, Upper.ofString ticker ≠ "") :
    Request.WellFormed g.service.keys [endpoint] (requested tickers) g.options where
  endpoints_ne := List.cons_ne_nil _ _
  stock := List.forall_mem_singleton.mpr hstock
  symbols_ne := by
    obtain ⟨ticker, hmem⟩ := List.exists_mem_of_ne_nil _ hne
    exact List.ne_nil_of_mem (mem_requested.mpr ⟨ticker, hmem, rfl⟩)
  texts := by
    intro symbol hsymbol
    obtain ⟨ticker, hmem, rfl⟩ := mem_requested.mp hsymbol
    exact htexts ticker hmem
  signable := ⟨htoken, by unfold Globals.options; split <;> simp [RequestOptions.sandbox]⟩

theorem stockCall_ok_iff {config : TransportConfig} (hstock : endpoint.isStock = true)
    (hne : tickers ≠ []) (htoken : g.service.keys.token g.options.dataType ≠ "")
    (hconfig : (s.engine.setup.install env.build {}).config = .ok config) :
    (∃ data, (stockCall env g endpoint tickers s).1.result = .ok data) ↔
      ¬ StockFailure env g endpoint tickers s := by
  by_cases htexts : ∀ ticker ∈ tickers, Upper.ofString ticker ≠ ""
  · obtain ⟨urls, hurls, -, -, hresult⟩ :
        ∃ urls, Request.stockUrls g.service.config g.service.keys [endpoint] (requested tickers)
          g.options = .ok urls ∧ urls ≠ [] ∧ (stockCall env g endpoint tickers s).1.run = _ ∧
            (stockCall env g endpoint tickers s).1.result = _ :=
      Client.getStock_of_wellFormed (wellFormed_of_token hstock hne htoken htexts)
    have houtcome : Client.Outcome (g.service.fetched env .free urls s)
        (stockCall env g endpoint tickers s).1.result := by
      rw [← Client.fetched_ready]
      exact hresult ▸ Client.gather_outcome
    rw [houtcome.ok_iff]
    constructor
    · rintro ⟨hcomplete, hall⟩ (htoken' | hsetup | ⟨hmem, hempty⟩ | ⟨hurls', hget⟩ |
        ⟨hurls', hget, hbad⟩)
      · exact htoken htoken'
      · cases hconfig.symm.trans hsetup
      · exact htexts _ hmem hempty
      · cases hurls.symm.trans hurls'
        exact Results.isComplete_iff.mp hcomplete _ _ hget
      · cases hurls.symm.trans hurls'
        exact hbad (hall _ _ hget)
    · intro hnot
      refine ⟨Results.isComplete_iff.mpr fun url e hget => hnot (.requestFailed hurls hget),
        fun url v hget => ?_⟩
      by_contra hbad
      exact hnot (.noAnswer hurls hget hbad)
  · push Not at htexts
    obtain ⟨ticker, hmem, hempty⟩ := htexts
    have hflawed : Request.Flawed g.service.keys [endpoint] (requested tickers) g.options :=
      .emptySymbol (mem_requested.mpr ⟨ticker, hmem, rfl⟩) hempty
    obtain ⟨reason, hrefused⟩ : ∃ reason, stockCall env g endpoint tickers s =
        (⟨.error (.invalidUrl reason), none⟩, s.ready env) := Client.getStock_of_flawed hflawed
    refine iff_of_false ?_ (not_not.mpr (.emptySymbol hmem hempty))
    rw [hrefused]
    simp

/-- With a token, no empty ticker and a server that tells of each symbol what `f` has for it, the
data are brought if nothing keeps the call from the server. -/
theorem not_failure_of_serves {f : Symbol → Option Json.Value} (hpool : s.engine.pool.Custody [])
    (hstock : endpoint.isStock = true) (hne : tickers ≠ [])
    (htoken : g.service.keys.token g.options.dataType ≠ "")
    (htexts : ∀ ticker ∈ tickers, Upper.ofString ticker ≠ "")
    (hserver : env.network.TellsOf f g.service [endpoint] (requested tickers) g.options)
    (hserves : ∀ urls, Request.stockUrls g.service.config g.service.keys [endpoint]
      (requested tickers) g.options = .ok urls → env.Serves .free s.engine.setup urls) :
    ¬ StockFailure env g endpoint tickers s := by
  have hwell := wellFormed_of_token hstock hne htoken htexts
  obtain ⟨urls, hurls⟩ : ∃ urls, Request.stockUrls g.service.config g.service.keys [endpoint]
      (requested tickers) g.options = .ok urls :=
    (Request.stockUrls_ok_iff hwell.symbols_ne).mpr
      ⟨hwell.texts, hwell.endpoints_ne, hwell.signable⟩
  have hne' : urls ≠ [] := Request.stockUrls_ne_nil hwell.symbols_ne hurls
  have hcomplete := Client.fetched_isComplete (c := g.service) hpool hne' (hserves urls hurls)
  rintro (htoken' | hsetup | ⟨hmem, hempty⟩ | ⟨hurls', hget⟩ | ⟨hurls', hget, hbad⟩)
  · exact htoken htoken'
  · obtain ⟨config, hconfig⟩ := (hserves urls hurls).installed
    cases hconfig.symm.trans hsetup
  · exact htexts _ hmem hempty
  · cases hurls.symm.trans hurls'
    exact Results.isComplete_iff.mp hcomplete _ _ hget
  · cases hurls.symm.trans hurls'
    have hagrees := (Client.documents_agree hpool hurls hne' hserver hcomplete).1
    exact hbad (hagrees _ (List.mem_map_of_mem (Results.mem_documents.mpr hget))).isAnswer

/-- The end of a command: an error, or the section of each symbol in what the call brought. -/
inductive StockEnd (env : Environment) (g : Globals) (endpoint : Endpoint) (tickers : List String)
    (s : Session) : Except Report Json.Value → Prop
  | failed : StockFailure env g endpoint tickers s → StockEnd env g endpoint tickers s (.error r)
  | brought : ¬ StockFailure env g endpoint tickers s →
    (stockCall env g endpoint tickers s).1.result = .ok data →
    StockEnd env g endpoint tickers s (.ok (.object (data.pick endpoint)))

theorem stockDocument_of_noClient (h : ∃ r, g.client env s = .error r) :
    ∃ r, (stockDocument env g endpoint tickers s).1 = .error r := by
  obtain ⟨r, hclient⟩ := h
  exact ⟨r, by simp only [stockDocument, hclient]⟩

theorem stockDocument_of_client (h : g.client env s = .ok (g.service, s.ready env)) :
    (stockDocument env g endpoint tickers s).1 =
      match (stockCall env g endpoint tickers s).1.result with
      | .ok data => .ok (.object (data.pick endpoint))
      | .error e => .error ⟨"Failed to fetch " ++ endpoint.title, [e.message]⟩ := by
  simp only [stockDocument, h]
  rw [← requested, ← stockCall]
  cases (stockCall env g endpoint tickers s).1.result <;> rfl

theorem stockDocument_end (hstock : endpoint.isStock = true) (hne : tickers ≠ []) :
    StockEnd env g endpoint tickers s (stockDocument env g endpoint tickers s).1 := by
  have hrefused (hfailure : StockFailure env g endpoint tickers s)
      (hclient : ∃ r, g.client env s = .error r) :
      StockEnd env g endpoint tickers s (stockDocument env g endpoint tickers s).1 := by
    obtain ⟨r, hdocument⟩ : ∃ r, (stockDocument env g endpoint tickers s).1 = .error r :=
      stockDocument_of_noClient hclient
    rw [hdocument]
    exact .failed hfailure
  by_cases htoken : g.service.keys.token g.options.dataType = ""
  · exact hrefused (.noToken htoken) (Globals.client_of_noToken htoken)
  cases hconfig : (s.engine.setup.install env.build {}).config with
  | error reason =>
    exact hrefused (.noTransport hconfig) (Globals.client_of_noTransport htoken hconfig)
  | ok config =>
    have hiff : (∃ data, (stockCall env g endpoint tickers s).1.result = .ok data) ↔ _ :=
      stockCall_ok_iff hstock hne htoken hconfig
    rw [stockDocument_of_client (Globals.client_of_token htoken hconfig)]
    cases hresult : (stockCall env g endpoint tickers s).1.result with
    | error e =>
      refine .failed (not_not.mp fun hnot => ?_)
      obtain ⟨data, hok⟩ := hiff.mpr hnot
      cases hresult.symm.trans hok
    | ok data => exact .brought (hiff.mp ⟨data, hresult⟩) hresult

/-! ## What is printed -/

/-- The members show what `f` has for the tickers: the keys are in order, and under each of them is
the section of a ticker in upper case. -/
structure Shows (f : Symbol → Option Json.Value) (endpoint : Endpoint) (tickers : List String)
    (members : List (String × Json.Value)) : Prop where
  increasing : (members.map (·.1)).Pairwise (· < ·)
  mem_iff : ∀ key v, (key, v) ∈ members ↔ (∃ ticker ∈ tickers, Upper.ofString ticker = key) ∧
    ∃ found, f ⟨key⟩ = some found ∧ found.member? endpoint.path = some v ∧ v ≠ .null

theorem shows_of_represents {f : Symbol → Option Json.Value} {data : StockData}
    (h : data.Represents [endpoint] (requested tickers) f) :
    Shows f endpoint tickers (data.pick endpoint) where
  increasing := StockData.pick_increasing endpoint data
  mem_iff := by
    intro key v
    rw [h.mem_pick (List.mem_singleton_self endpoint), mem_requested]
    simp only [Symbol.ofString, Symbol.mk.injEq]

/-- The output of a command that ended so. -/
def Output.ofResult (format : Json.Format) : Except Report Json.Value → Output
  | .ok document => .success (document.document format)
  | .error r => .failure r

section

variable {command : Command} {vars : List (String × String)} {words : List String}

theorem run_of_asks (h : Invocation.read vars words = .ok ⟨g, some command⟩)
    (hasks : command.Asks endpoint tickers) : run env vars words s =
      (.ofResult g.outputFormat (stockDocument env g endpoint tickers s).1,
        (stockDocument env g endpoint tickers s).2) := by
  rw [run, h]
  cases hasks <;>
  · simp only [Command.document]
    split <;> simp [Output.ofResult, *]

theorem run_of_failure (h : Invocation.read vars words = .ok ⟨g, some command⟩)
    (hasks : command.Asks endpoint tickers) (hfailure : StockFailure env g endpoint tickers s) :
    (run env vars words s).1.code = 1 ∧ (run env vars words s).1.stdout = "" := by
  have hend : StockEnd env g endpoint tickers s (stockDocument env g endpoint tickers s).1 :=
    stockDocument_end hasks.isStock (Invocation.asks_ne_nil h hasks)
  rw [run_of_asks h hasks]
  generalize (stockDocument env g endpoint tickers s).1 = result at hend
  cases hend with
  | failed => exact ⟨rfl, rfl⟩
  | brought hnot => exact absurd hfailure hnot

theorem run_of_not_failure (h : Invocation.read vars words = .ok ⟨g, some command⟩)
    (hasks : command.Asks endpoint tickers) (hnot : ¬ StockFailure env g endpoint tickers s) :
    ∃ data, (stockCall env g endpoint tickers s).1.result = .ok data ∧ (run env vars words s).1 =
      .success ((Json.Value.object (data.pick endpoint)).document g.outputFormat) := by
  have hend : StockEnd env g endpoint tickers s (stockDocument env g endpoint tickers s).1 :=
    stockDocument_end hasks.isStock (Invocation.asks_ne_nil h hasks)
  rw [run_of_asks h hasks]
  generalize (stockDocument env g endpoint tickers s).1 = result at hend
  cases hend with
  | failed hfailure => exact absurd hfailure hnot
  | brought _ hok => exact ⟨_, hok, rfl⟩

end

variable {tickers' : List String}

theorem requested_sameMembers
    (h : SameMembers (tickers.map Upper.ofString) (tickers'.map Upper.ofString)) :
    SameMembers (requested tickers).items (requested tickers').items := by
  intro symbol
  have hmap := h.map Symbol.mk symbol
  simp only [List.map_map, List.mem_map] at hmap
  rw [mem_requested, mem_requested]
  exact hmap

theorem stockDocument_congr
    (h : SameMembers (tickers.map Upper.ofString) (tickers'.map Upper.ofString)) :
    stockDocument env g endpoint tickers s = stockDocument env g endpoint tickers' s := by
  unfold stockDocument
  cases g.client env s with
  | error r => rfl
  | ok made =>
    have hsame : SameMembers [endpoint] [endpoint] := fun _ => Iff.rfl
    obtain ⟨hend, -, hsession⟩ := Client.getStock_congr hsame (requested_sameMembers h) env .free
      made.1 g.options made.2
    simp only [requested] at hend hsession
    simp only [hend.eq_of_singleton, hsession]

theorem stockCall_represents {f : Symbol → Option Json.Value} {data : StockData}
    (hpool : s.engine.pool.Custody [])
    (hserver : env.network.TellsOf f g.service [endpoint] (requested tickers) g.options)
    (hok : (stockCall env g endpoint tickers s).1.result = .ok data) :
    data.Represents [endpoint] (requested tickers) f := by
  have hpool' : (s.ready env).engine.pool.Custody [] := hpool
  exact (Client.getStock_represents hpool' hserver hok).1

end CommandLine

open CommandLine in
/-- **Stock data in print.** A command line asks for a stock endpoint of some tickers. If there is
no token or no transport, a ticker is empty, a request fails or brings no answer, nothing is printed
and the program fails. Otherwise it prints one object, and if the server tells of each symbol what
`f` has for it, this shows of the tickers in upper case those for which `f` has the section, in
order, with that section; with a token and no empty ticker it does so whenever nothing keeps it from
the server. Tickers that are the same in upper case, in any order and any number of times, make no
difference to what is printed: not in one session, and not in two with servers that tell the
same. -/
theorem stock_output_exact (setup : Setup) (log : List String) (batches : List Batch) (gate : Gate)
    (now : Instant) (env : Environment) (vars : List (String × String)) (words : List String)
    (g : Globals) (command : Command) (endpoint : Endpoint) (tickers : List String)
    (hread : Invocation.read vars words = .ok ⟨g, some command⟩)
    (hasks : command.Asks endpoint tickers) :
    let s := Session.after setup log batches gate now
    let out := (run env vars words s).1
    (StockFailure env g endpoint tickers s → out.code = 1 ∧ out.stdout = "") ∧
    (¬ StockFailure env g endpoint tickers s → out.code = 0 ∧ ∃ members,
      out.stdout = (Json.Value.object members).document g.outputFormat ∧
      ∀ f, env.network.TellsOf f g.service [endpoint] (requested tickers) g.options →
        Shows f endpoint tickers members) ∧
    (∀ f, env.network.TellsOf f g.service [endpoint] (requested tickers) g.options →
      g.service.keys.token g.options.dataType ≠ "" →
      (∀ ticker ∈ tickers, Upper.ofString ticker ≠ "") →
      (∀ urls, Request.stockUrls g.service.config g.service.keys [endpoint] (requested tickers)
        g.options = .ok urls → env.Serves .free setup urls) →
      ¬ StockFailure env g endpoint tickers s) ∧
    ∀ vars' words' command' tickers', Invocation.read vars' words' = .ok ⟨g, some command'⟩ →
      command'.Asks endpoint tickers' →
      SameMembers (tickers.map Upper.ofString) (tickers'.map Upper.ofString) →
      ((run env vars' words' s).1.code = out.code ∧
        (run env vars' words' s).1.stdout = out.stdout ∧
        (run env vars' words' s).2 = (run env vars words s).2) ∧
      ∀ setup' log' batches' gate' now' env',
        let s' := Session.after setup' log' batches' gate' now'
        ¬ StockFailure env g endpoint tickers s → ¬ StockFailure env' g endpoint tickers' s' →
        ∀ f, env.network.TellsOf f g.service [endpoint] (requested tickers) g.options →
          env'.network.TellsOf f g.service [endpoint] (requested tickers') g.options →
          (run env' vars' words' s').1.stdout = out.stdout := by
  intro s out
  have hne : tickers ≠ [] := Invocation.asks_ne_nil hread hasks
  have custody : s.engine.pool.Custody [] := Session.after_custody
  refine ⟨run_of_failure hread hasks, fun hnot => ?_, fun f hserver htoken htexts hserves =>
    not_failure_of_serves custody hasks.isStock hne htoken htexts hserver hserves,
    fun vars' words' command' tickers' hread' hasks' hsame => ⟨?_, ?_⟩⟩
  · obtain ⟨data, hok, hrun⟩ := run_of_not_failure hread hasks hnot
    simp only [out, hrun]
    exact ⟨rfl, data.pick endpoint, rfl, fun f hserver =>
      shows_of_represents (stockCall_represents custody hserver hok)⟩
  · simp only [out, run_of_asks hread hasks, run_of_asks hread' hasks', stockDocument_congr hsame,
      and_self]
  · intro setup' log' batches' gate' now' env' s' hnot hnot' f hserver hserver'
    have custody' : s'.engine.pool.Custody [] := Session.after_custody
    obtain ⟨data, hok, hrun⟩ := run_of_not_failure hread hasks hnot
    obtain ⟨data', hok', hrun'⟩ := run_of_not_failure hread' hasks' hnot'
    have hrepresents : data.Represents [endpoint] (requested tickers') f :=
      (stockCall_represents custody hserver hok).congr (fun _ => Iff.rfl)
        (requested_sameMembers hsame)
    have hrepresents' := stockCall_represents custody' hserver' hok'
    simp only [out, hrun, hrun', hrepresents'.unique hrepresents]

/-! Two tickers, one of them twice, before a server that knows one symbol. -/
namespace QuotedTwice

open CommandLine

def vars : List (String × String) := [("IEX_SECRET_KEY", "sk")]

def globals : Globals := { token := some "sk", format := some .compact }

def words : List String := ["-f", "compact", "quote", "a", "B", "--", "A"]

def tickers : List String := ["a", "B", "A"]

/-- The same tickers, each of them once. -/
def fewer : List String := ["quote", "--format=compact", "b", "a"]

theorem read_words : Invocation.read vars words = .ok ⟨globals, some (.quote tickers)⟩ := by
  rfl

theorem read_fewer : Invocation.read vars fewer = .ok ⟨globals, some (.quote ["b", "a"])⟩ := by
  rfl

theorem sameMembers :
    SameMembers (tickers.map Upper.ofString) (["b", "a"].map Upper.ofString) := by
  have hleft : tickers.map Upper.ofString = ["A", "B", "A"] := by decide
  have hright : ["b", "a"].map Upper.ofString = ["B", "A"] := by decide
  rw [hleft, hright]
  intro key
  simp only [List.mem_cons, List.not_mem_nil, or_false]
  tauto

theorem serves (urls : List Url) : OneKnown.env.Serves .free .pending urls :=
  ⟨rfl, ⟨_, rfl⟩, fun _ _ _ => rfl, fun config log url _ => ⟨_, OneKnown.answered config log url⟩⟩

end QuotedTwice

open CommandLine QuotedTwice in
theorem stock_output_exact_quotedTwice :
    Invocation.read vars words = .ok ⟨globals, some (.quote tickers)⟩ ∧
    Command.Asks (.quote tickers) .quote tickers ∧
    OneKnown.env.network.TellsOf OneKnown.known globals.service [.quote] (requested tickers)
      globals.options ∧
    (∃ members, (run OneKnown.env vars words
        (.after .pending [] [] ⟨Policy.service, none⟩ 0)).1.stdout =
        (Json.Value.object members).document globals.outputFormat ∧
      Shows OneKnown.known .quote tickers members) ∧
    (run OneKnown.env vars words (.after .pending [] [] ⟨Policy.service, none⟩ 0)).1 =
      .success "\x7b\"A\":1\x7d\n" ∧
    (run OneKnown.env vars fewer (.after .pending [] [] ⟨Policy.service, none⟩ 0)).1.stdout =
      (run OneKnown.env vars words (.after .pending [] [] ⟨Policy.service, none⟩ 0)).1.stdout := by
  have hserver : OneKnown.env.network.TellsOf OneKnown.known globals.service [.quote]
    (requested tickers) globals.options := OneKnown.tellsOf _
  obtain ⟨-, hprints, hserved, hnamed⟩ := stock_output_exact .pending [] [] ⟨Policy.service, none⟩ 0
    OneKnown.env vars words globals (.quote tickers) .quote tickers read_words (.quote tickers)
  have hnot := hserved OneKnown.known hserver (by decide) (by decide) fun urls _ => serves urls
  obtain ⟨-, members, hstdout, hshows⟩ := hprints hnot
  obtain ⟨⟨-, hsame, -⟩, -⟩ := hnamed vars fewer (.quote ["b", "a"]) ["b", "a"] read_fewer
    (.quote _) sameMembers
  exact ⟨read_words, .quote _, hserver, ⟨members, hstdout, hshows _ hserver⟩, by decide +kernel,
    hsame⟩

end MarketData
