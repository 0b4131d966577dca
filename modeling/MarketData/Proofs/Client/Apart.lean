import MarketData.Proofs.Batch.Paths
import MarketData.Proofs.Client.Secrecy

/-! Sandbox and production stay apart. A session asks for either kind of data in any order, so that
handles pass from one host to the other. Whatever came before, a call starts transfers for its own
URLs only (`Client.ask_started`), and what it finds depends on its own URLs, never on what the
pool was used for (`Engine.fetch_agrees`). The URLs depend on the account through the secret key and
the host for the kind of data they ask for. -/

namespace MarketData

/-! ## Sessions -/

/-- What a client is asked for. -/
inductive Inquiry
  | get (endpoint : Endpoint) (o : RequestOptions)
  | getStock (endpoints : List Endpoint) (symbols : SymbolSet) (o : RequestOptions)

namespace Inquiry

def dataType : Inquiry → DataType
  | get _ o => o.dataType
  | getStock _ _ o => o.dataType

/-- The URLs built for it. -/
def urls (c : Client) : Inquiry → Except UrlFault (List Url)
  | get endpoint o => (Request.endpointUrl c.config c.keys endpoint o).map ([·])
  | getStock endpoints symbols o => Request.stockUrls c.config c.keys endpoints symbols o

/-- Two answers are the same, but for what the order of tables makes of stock data from these
documents. -/
inductive SameAnswer (documents : List Json.Value) : Inquiry →
    Except ServiceError (Json.Value ⊕ StockData) →
    Except ServiceError (Json.Value ⊕ StockData) → Prop
  | get : SameAnswer documents (.get endpoint o) result result
  | getStock : SameStock Eq endpoints symbols documents result result' →
    SameAnswer documents (.getStock endpoints symbols o) (result.map .inr) (result'.map .inr)

end Inquiry

/-- The same call with what it brings seen in another way. -/
def Call.map {α β : Type} (f : α → β) (call : Call α) : Call β := ⟨call.result.map f, call.run⟩

/-- A call of a session, with all that it does not decide for itself. -/
structure Turn where
  env : Environment
  footing : Footing
  inquiry : Inquiry

namespace Client

/-- A call for a document or for stock data. -/
def ask (env : Environment) (footing : Footing) (c : Client) (inquiry : Inquiry) (s : Session) :
    Call (Json.Value ⊕ StockData) × Session :=
  match inquiry with
  | .get endpoint o =>
    let (call, s) := c.get env footing endpoint o s
    (call.map .inl, s)
  | .getStock endpoints symbols o =>
    let (call, s) := c.getStock env footing endpoints symbols o s
    (call.map .inr, s)

/-- The session after these calls. -/
def after (c : Client) (s : Session) (turns : List Turn) : Session :=
  turns.foldl (fun s turn => (c.ask turn.env turn.footing turn.inquiry s).2) s

end Client

/-! ## A call -/

namespace Client

variable {env env' : Environment} {footing : Footing} {c c' : Client} {s s' : Session}
  {inquiry : Inquiry} {urls : List Url} {replies : Url → Nat → Transfer}

/-- A call does nothing, or performs the URLs built for it. -/
theorem ask_performs (env : Environment) (footing : Footing) (c : Client) (inquiry : Inquiry)
    (s : Session) :
    ((c.ask env footing inquiry s).1.run = none ∧ (c.ask env footing inquiry s).2 = s) ∨
    ∃ urls, inquiry.urls c = .ok urls ∧
      (c.ask env footing inquiry s).1.run = some (c.fetched env footing urls s) ∧
      (c.ask env footing inquiry s).2 = (c.perform env footing urls s).2 := by
  cases inquiry with
  | get endpoint o =>
    simp only [ask, get, Inquiry.urls]
    split
    · exact .inl ⟨rfl, rfl⟩
    · cases Request.endpointUrl c.config c.keys endpoint o with
      | error fault => exact .inl ⟨rfl, rfl⟩
      | ok url => exact .inr ⟨[url], rfl, rfl, rfl⟩
  | getStock endpoints symbols o =>
    simp only [ask, getStock, Inquiry.urls]
    cases stockObjection? endpoints symbols with
    | some reason => exact .inl ⟨rfl, rfl⟩
    | none =>
      cases Request.stockUrls c.config c.keys endpoints symbols o with
      | error fault => exact .inl ⟨rfl, rfl⟩
      | ok urls => exact .inr ⟨urls, rfl, rfl, rfl⟩

/-- Without a batch nothing has happened. -/
theorem ask_idle (h : (c.ask env footing inquiry s).1.run = none) :
    (c.ask env footing inquiry s).2 = s := by
  rcases ask_performs env footing c inquiry s with ⟨-, hsame⟩ | ⟨urls, -, hsome, -⟩
  · exact hsame
  · rw [hsome] at h
    contradiction

theorem fetched_started (hpool : s.engine.pool.Custody []) {url : Url}
    (h : url ∈ (c.fetched env footing urls s).started) : url ∈ urls :=
  Environment.mem_urlSet.mp (Engine.fetch_path.mem_urls_of_started hpool h)

/-- Whatever was asked for before, requests are for the URLs of this call. -/
theorem ask_started (hpool : s.engine.pool.Custody []) {run : BatchRun}
    (hrun : (c.ask env footing inquiry s).1.run = some run) :
    ∃ urls, inquiry.urls c = .ok urls ∧ ∀ url ∈ run.started, url ∈ urls := by
  rcases ask_performs env footing c inquiry s with ⟨hnone, -⟩ | ⟨urls, hurls, hsome, -⟩
  · rw [hnone] at hrun
    contradiction
  · rw [hsome] at hrun
    cases hrun
    exact ⟨urls, hurls, fun url => fetched_started hpool⟩

end Client

/-! ## After any calls -/

/-- What the calls of a session leave as it was, and what the next one can rely on. -/
structure Session.Continues (start s : Session) : Prop where
  custody : s.engine.pool.Custody []
  policy : s.gate.policy = start.gate.policy

/-- An attempt to set the transport up by default that `setup` leaves open comes to `built`. -/
def Environment.Builds (setup : Setup) (built : Except String Unit) (env : Environment) : Prop :=
  setup = .pending → env.build {} = built

/-- Only an attempt that is still open depends on the builder. -/
theorem Setup.install_congr {setup : Setup} {build build' : ClientBuilder}
    {config : TransportConfig} (h : setup = .pending → build config = build' config) :
    setup.install build config = setup.install build' config := by
  cases setup with
  | pending => simp only [install, outcome, h rfl]
  | installed | failed => rfl

/-- Environments that build alike find the set-up of `start` if they try it now. -/
def Session.Keeps (start : Setup) (built : Except String Unit) (s : Session) : Prop :=
  ∀ env, Environment.Builds start built env →
    s.engine.setup.install env.build {} = start.install (fun _ => built) {}

theorem Session.Keeps.start {setup : Setup} {built : Except String Unit} {pool : Pool}
    {log : List String} {gate : Gate} {now : Instant} :
    Keeps setup built ⟨{ setup, pool, log }, gate, now⟩ := by
  intro env henv
  exact Setup.install_congr henv

namespace Client

variable {env env' : Environment} {footing : Footing} {c c' : Client} {start s s' : Session}
  {setup : Setup} {built : Except String Unit} {inquiry : Inquiry} {urls : List Url}
  {replies : Url → Nat → Transfer} {turns : List Turn}

theorem perform_keeps (h : s.Keeps setup built) (henv : env.Builds setup built) :
    (c.perform env footing urls s).2.Keeps setup built := by
  intro later hlater
  change (c.left env footing urls s).setup.install later.build {} = _
  rw [left, Engine.fetch_path.setup]
  split
  · exact h later hlater
  · rw [Setup.install_install, h env henv]

theorem ask_continues (h : start.Continues s) :
    start.Continues (c.ask env footing inquiry s).2 := by
  rcases ask_performs env footing c inquiry s with ⟨-, hsame⟩ | ⟨urls, -, -, hperform⟩
  · rw [hsame]
    exact h
  · rw [hperform]
    exact ⟨Engine.fetch_path.custody h.custody, h.policy⟩

theorem ask_keeps (h : s.Keeps setup built) (henv : env.Builds setup built) :
    (c.ask env footing inquiry s).2.Keeps setup built := by
  rcases ask_performs env footing c inquiry s with ⟨-, hsame⟩ | ⟨urls, -, -, hperform⟩
  · rw [hsame]
    exact h
  · rw [hperform]
    exact perform_keeps h henv

theorem after_continues (h : start.Continues s) (turns : List Turn) :
    start.Continues (c.after s turns) := by
  induction turns generalizing s with
  | nil => exact h
  | cons turn turns ih => exact ih (ask_continues h)

theorem after_keeps (h : s.Keeps setup built)
    (hturns : ∀ turn ∈ turns, turn.env.Builds setup built) :
    (c.after s turns).Keeps setup built := by
  induction turns generalizing s with
  | nil => exact h
  | cons turn turns ih =>
    obtain ⟨hturn, hlater⟩ := List.forall_mem_cons.mp hturns
    exact ih (ask_keeps h hturn) hlater

end Client

/-! ## Two accounts -/

theorem BatchRun.Agrees.refl (run : BatchRun) : run.Agrees run := ⟨rfl, fun _ => rfl⟩

theorem Results.allFailed_congr {urls urls' : UrlSet} (h : urls.items.Perm urls'.items)
    (e : FetchError) : allFailed urls e = allFailed urls' e := by
  refine ext_get? fun url => ?_
  rw [get?_allFailed, get?_allFailed]
  simp only [h.mem_iff]

/-- What a fetch finds does not depend on the pool, the log and the clock of the thread, and not on
the order of the URLs. -/
theorem Engine.fetch_agrees {env env' : Environment} {footing : Footing} {urls urls' : UrlSet}
    {maxConnections maxConnections' : Nat} {policy : Policy} {e e' : Engine}
    {replies : Url → Nat → Transfer} (hurls : urls.items.Perm urls'.items)
    (c : e.pool.Custody []) (c' : e'.pool.Custody [])
    (hsetup : e.setup.install env.build {} = e'.setup.install env'.build {})
    (hbrings : env.Brings e.log replies) (hbrings' : env'.Brings e'.log replies) :
    (e.fetch env footing urls maxConnections policy).1.Agrees
      (e'.fetch env' footing urls' maxConnections' policy).1 := by
  have hempty' : urls'.isEmpty = urls.isEmpty := hurls.symm.isEmpty_eq
  cases hempty : urls.isEmpty with
  | true =>
    rw [fetch_of_isEmpty hempty, fetch_of_isEmpty (hempty'.trans hempty)]
    exact .refl _
  | false =>
    rw [hempty] at hempty'
    cases hconfig : (e.setup.install env.build {}).config with
    | error reason =>
      have hconfig' := hsetup ▸ hconfig
      rw [fetch_of_setup_error hempty hconfig, fetch_of_setup_error hempty' hconfig',
        Results.allFailed_congr hurls]
      exact .refl _
    | ok config =>
      have hconfig' := hsetup ▸ hconfig
      cases hfooting : footing.obstacle? with
      | some reason =>
        rw [fetch_of_obstacle hempty hconfig hfooting,
          fetch_of_obstacle hempty' hconfig' hfooting, Results.allFailed_congr hurls]
        exact .refl _
      | none =>
        rw [fetch_of_free hempty hconfig hfooting, fetch_of_free hempty' hconfig' hfooting]
        have hsettles := Batch.settles_of_brings
          (b := { env, config, urls, maxConnections, policy }) (e := e.ready env) c hbrings
        have hsettles' := Batch.settles_of_brings
          (b := { env := env', config, urls := urls', maxConnections := maxConnections', policy })
          (e := e'.ready env') c' hbrings'
        obtain ⟨hresults, hrequests⟩ := hsettles.unique (hsettles'.perm hurls.symm)
        exact ⟨hresults, hrequests⟩

/-- The accounts are signed in with one key for data of this kind, and ask one host for it. -/
structure Client.SameFor (dataType : DataType) (c c' : Client) : Prop where
  token : c.keys.token dataType = c'.keys.token dataType
  host : c.config.baseUrl dataType = c'.config.baseUrl dataType

namespace Client

variable {env env' : Environment} {footing : Footing} {c c' : Client} {s s' : Session}
  {inquiry : Inquiry} {urls : List Url} {replies : Url → Nat → Transfer}

theorem SameFor.endpointUrl {o : RequestOptions} (h : SameFor o.dataType c c')
    (endpoint : Endpoint) : Request.endpointUrl c.config c.keys endpoint o =
      Request.endpointUrl c'.config c'.keys endpoint o := by
  simp only [Request.endpointUrl, Request.root, h.token, h.host]

theorem SameFor.stockUrls {o : RequestOptions} (h : SameFor o.dataType c c')
    (endpoints : List Endpoint) (symbols : SymbolSet) :
    Request.stockUrls c.config c.keys endpoints symbols o =
      Request.stockUrls c'.config c'.keys endpoints symbols o := by
  simp only [Request.stockUrls, Request.stockUrl, Request.root, h.token, h.host]

theorem SameFor.inquiry_urls (h : SameFor inquiry.dataType c c') :
    inquiry.urls c = inquiry.urls c' := by
  cases inquiry with
  | get endpoint o => rw [Inquiry.urls, Inquiry.urls, h.endpointUrl]
  | getStock endpoints symbols o => exact h.stockUrls endpoints symbols

/-- For a single URL no order shows. -/
theorem Told.unique {endpoint : Endpoint} {url : Url} {entry : Entry}
    {result result' : Except ServiceError Json.Value} (h : Told endpoint url entry result)
    (h' : Told endpoint url entry result') : result = result' := by
  cases h with
  | document hv =>
    cases h' with
    | document => rfl
    | null => contradiction
  | null =>
    cases h' with
    | document hv => contradiction
    | null => rfl
  | failure =>
    cases h'
    rfl

theorem SameFor.get_agrees {o : RequestOptions} (h : SameFor o.dataType c c')
    (endpoint : Endpoint) (hpool : s.engine.pool.Custody [])
    (hfetched : ∀ urls, (c.fetched env footing urls s).Agrees (c'.fetched env' footing urls s')) :
    (c.get env footing endpoint o s).1.result = (c'.get env' footing endpoint o s').1.result ∧
      Option.Rel BatchRun.Agrees (c.get env footing endpoint o s).1.run
        (c'.get env' footing endpoint o s').1.run := by
  have hboth : Steps.Both Eq (Request.endpointUrl c.config c.keys endpoint o)
      (Request.endpointUrl c'.config c'.keys endpoint o) := by
    rw [h.endpointUrl endpoint]
    exact .refl
  rcases get_cases c c' hboth env env' footing s s' with
    ⟨hsame, hnone⟩ | ⟨url, _, rfl, hrun, hrun', htold, htold'⟩
  · rw [← hsame, hnone]
    exact ⟨rfl, .none⟩
  · have hkeys : (c.fetched env footing [url] s).results.entries.keys.Perm
      (env.urlSet [url]).items := Engine.fetch_path.keys_perm hpool
    rw [env.urlSet_single] at hkeys
    obtain ⟨entry, hentries⟩ := Results.exists_entries_of_single hkeys
    rw [hrun, hrun']
    exact ⟨(htold entry hentries).unique
      (htold' entry ((hfetched [url]).results ▸ hentries)), .some (hfetched [url])⟩

/-- A request for stock data that brought the same has the same result, if tables are handed out in
the same order. -/
theorem SameFor.getStock_agrees {o : RequestOptions} (h : SameFor o.dataType c c')
    (endpoints : List Endpoint) (symbols : SymbolSet)
    (hfetched : ∀ urls, (c.fetched env footing urls s).Agrees (c'.fetched env' footing urls s')) :
    let call := (c.getStock env footing endpoints symbols o s).1
    let call' := (c'.getStock env' footing endpoints symbols o s').1
    SameStock Eq endpoints symbols call.documents call.result call'.result ∧
      (env.order = env'.order → call.result = call'.result) ∧
      Option.Rel BatchRun.Agrees call.run call'.run := by
  intro call call'
  have hboth : Steps.Both Eq (Request.stockUrls c.config c.keys endpoints symbols o)
      (Request.stockUrls c'.config c'.keys endpoints symbols o) := by
    rw [h.stockUrls endpoints symbols]
    exact .refl
  rcases getStock_cases c c' hboth env env' footing s s' with
    ⟨hsame, hnone⟩ | ⟨urls, _, -, -, -, rfl, hcall, hcall'⟩
  · have hsame : call = call' := hsame
    have hnone : call.run = none := hnone
    rw [← hsame, hnone]
    exact ⟨.same, fun _ => rfl, .none⟩
  · have hresults := (hfetched urls).results
    have halike := Results.Alike.refl (c.fetched env footing urls s).results
    simp only [call, call', hcall, hcall']
    refine ⟨gather_same (hresults ▸ halike), fun horder => ?_, .some (hfetched urls)⟩
    have hhanded : env.handOut = env'.handOut := by
      funext documents
      rw [Environment.handOut, Environment.handOut, horder]
    simp only [gather, perform_result, hresults, horder, hhanded]

/-- A call has the same result where the same URLs bring the same. -/
theorem SameFor.ask_agrees (h : SameFor inquiry.dataType c c') (hpool : s.engine.pool.Custody [])
    (hfetched : ∀ urls, (c.fetched env footing urls s).Agrees (c'.fetched env' footing urls s')) :
    let call := (c.ask env footing inquiry s).1
    let call' := (c'.ask env' footing inquiry s').1
    inquiry.SameAnswer call.documents call.result call'.result ∧
      (env.order = env'.order → call.result = call'.result) ∧
      Option.Rel BatchRun.Agrees call.run call'.run := by
  intro call call'
  cases inquiry with
  | get endpoint o =>
    obtain ⟨hresult, hrun⟩ := SameFor.get_agrees h endpoint hpool hfetched
    have hsame : call.result = call'.result := congrArg (Except.map Sum.inl) hresult
    exact ⟨hsame ▸ .get, fun _ => hsame, hrun⟩
  | getStock endpoints symbols o =>
    obtain ⟨halike, hordered, hrun⟩ := SameFor.getStock_agrees h endpoints symbols hfetched
    exact ⟨.getStock halike, fun horder => congrArg (Except.map Sum.inr) (hordered horder), hrun⟩

end Client

/-- **Sandbox and production stay apart.** After any calls, a call starts transfers for the URLs
built for it only; without any it leaves the session as it was. Two clients may differ in all but
the secret key and the host for the kind of data that the call asks for, and may have come to it by
different calls. If from now on the n-th attempt at a URL brings the same to both, they have the
same URLs and, after as many requests for each URL, the same entries. So they have the same result,
but for what the order of tables makes of stock data. -/
theorem accounts_apart (setup : Setup) (policy : Policy) (last last' : Option Instant)
    (log log' : List String) (now now' : Instant) (c c' : Client) (turns turns' : List Turn)
    (footing : Footing) (inquiry : Inquiry) :
    let s := c.after ⟨{ setup, log }, ⟨policy, last⟩, now⟩ turns
    let s' := c'.after ⟨{ setup, log := log' }, ⟨policy, last'⟩, now'⟩ turns'
    (∀ env, let r := c.ask env footing inquiry s
      (r.1.run = none → r.2 = s) ∧
      ∀ run, r.1.run = some run →
        ∃ urls, inquiry.urls c = .ok urls ∧ ∀ url ∈ run.started, url ∈ urls) ∧
    (c.SameFor inquiry.dataType c' → ∀ env env' replies, env.Brings s.engine.log replies →
      env'.Brings s'.engine.log replies →
      ∀ built, (∀ env'' ∈ env :: env' :: (turns ++ turns').map (·.env), env''.Builds setup built) →
      let call := (c.ask env footing inquiry s).1
      let call' := (c'.ask env' footing inquiry s').1
      inquiry.urls c = inquiry.urls c' ∧
        inquiry.SameAnswer call.documents call.result call'.result ∧
        (env.order = env'.order → call.result = call'.result) ∧
        Option.Rel BatchRun.Agrees call.run call'.run) := by
  intro s s'
  have h : Session.Continues ⟨{ setup, log }, ⟨policy, last⟩, now⟩ s :=
    Client.after_continues ⟨.empty, rfl⟩ turns
  have h' : Session.Continues ⟨{ setup, log := log' }, ⟨policy, last'⟩, now'⟩ s' :=
    Client.after_continues ⟨.empty, rfl⟩ turns'
  refine ⟨fun env => ⟨Client.ask_idle, fun run => Client.ask_started h.custody⟩, ?_⟩
  intro hsame env env' replies hbrings hbrings' built hbuilt call call'
  refine ⟨hsame.inquiry_urls, hsame.ask_agrees h.custody fun urls => ?_⟩
  have hpolicy : s.gate.policy = s'.gate.policy := h.policy.trans h'.policy.symm
  obtain ⟨henv, hbuilt⟩ := List.forall_mem_cons.mp hbuilt
  obtain ⟨henv', hturns⟩ := List.forall_mem_cons.mp hbuilt
  rw [List.forall_mem_map, List.forall_mem_append] at hturns
  have hkeeps : s.Keeps setup built := Client.after_keeps .start hturns.1
  have hkeeps' : s'.Keeps setup built := Client.after_keeps .start hturns.2
  rw [Client.fetched, Client.fetched, ← hpolicy]
  exact Engine.fetch_agrees (env.urlSet_perm_urlSet env' urls) h.custody h'.custody
    ((hkeeps env henv).trans (hkeeps' env' henv').symm) hbrings hbrings'

/-! A sandbox request, then one for production data: its handle comes from the sandbox host. The
sandbox is another one for each of the two accounts. -/
namespace Rebound

def client (sandbox : String) : Client where
  keys := { secretKey := "k", publicKey := sandbox, secretSandboxKey := sandbox }
  config := { sandboxBaseUrl := "http://" ++ sandbox ++ "/" }

/-- The first request for a URL is turned away. -/
def replies (url : Url) (n : Nat) : Transfer :=
  if n = 0 then .failed (.errorStatus 429 "X" url.text) else ⟨[[0x31]], .done⟩

def env (log : List String) : Environment where
  network := .ofScript fun url n => replies url (n - log.count url.text)

theorem env_order (log log' : List String) : (env log).order = (env log').order := rfl

def turns : List Turn := [⟨env [], .free, .get .systemStatus .sandbox⟩]

def start : Session := { engine := { setup := .installed {} } }

def inquiry : Inquiry := .get .systemStatus {}

theorem sameFor : (client "a").SameFor inquiry.dataType (client "b") := ⟨rfl, rfl⟩

end Rebound

open Rebound

theorem accounts_apart_rebound :
    (client "a").SameFor inquiry.dataType (client "b") ∧
    (client "a").keys.token .sandbox ≠ (client "b").keys.token .sandbox ∧
    let s := (client "a").after start turns
    let s' := (client "b").after start turns
    s.engine.log ≠ s'.engine.log ∧
    ((client "a").ask (env s.engine.log) .free inquiry s).1.run.map (·.poolUse.map (·.rebound)) =
      some (some 1) ∧
    ((client "a").ask (env s.engine.log) .free inquiry s).1.result =
      .ok (.inl (.number (.integer 1))) ∧
    ((client "b").ask (env s'.engine.log) .free inquiry s').1.result =
      .ok (.inl (.number (.integer 1))) := by
  obtain ⟨-, htwo⟩ := accounts_apart (.installed {}) .service none none [] [] 0 0 (client "a")
    (client "b") turns turns .free inquiry
  obtain ⟨-, -, hresult, -⟩ := htwo sameFor (env _) (env _) replies ⟨fun _ _ => rfl, rfl⟩
    ⟨fun _ _ => rfl, rfl⟩ (.ok ()) fun _ _ hpending => nomatch hpending
  have hbrought : ((client "a").ask (env ((client "a").after start turns).engine.log) .free inquiry
      ((client "a").after start turns)).1.result = .ok (.inl (.number (.integer 1))) := by rfl
  exact ⟨sameFor, by decide, by decide, by rfl, hbrought,
    (hresult (env_order _ _)).symm.trans hbrought⟩

end MarketData
