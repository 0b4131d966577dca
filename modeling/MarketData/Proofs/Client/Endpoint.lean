import MarketData.Proofs.Batch.Reports
import MarketData.Proofs.Batch.RollUp
import MarketData.Proofs.Gate.Dispatch
import MarketData.Proofs.Stock.Call

/-! Calls for a basic endpoint. An unfit request leaves the session as it was
(`Client.get_of_unfit`). Any other is one batch of one URL, run under the policy of the gate
(`Client.fetched_one`). Its attempts are the replies of the network in turn (`Attempted`); the last
of them settles the entry of the URL (`Settled`), and the entry the result of the call
(`Client.Told`). -/

namespace MarketData

/-! ## Unfit requests -/

namespace Request

/-- What is wrong with a request for a basic endpoint. -/
inductive Unfit (keys : Keys) (endpoint : Endpoint) (o : RequestOptions) : Prop
  | stockEndpoint : endpoint.isStock = true → Unfit keys endpoint o
  | noToken : keys.token o.dataType = "" → Unfit keys endpoint o
  | emptyOptionKey : pair ∈ o.options → pair.1 = "" → Unfit keys endpoint o
  | emptyOptionValue : pair ∈ o.options → pair.2 = "" → Unfit keys endpoint o

variable {keys : Keys} {endpoint : Endpoint} {o : RequestOptions}

theorem not_unfit_iff :
    ¬ Unfit keys endpoint o ↔ endpoint.isStock = false ∧ Signable keys o := by
  constructor
  · intro h
    refine ⟨?_, fun htoken => h (.noToken htoken), fun pair hmem => ⟨?_, ?_⟩⟩
    · rw [← Bool.not_eq_true]
      exact fun hstock => h (.stockEndpoint hstock)
    · exact fun hkey => h (.emptyOptionKey hmem hkey)
    · exact fun hvalue => h (.emptyOptionValue hmem hvalue)
  · rintro ⟨hbasic, hsignable⟩ hunfit
    cases hunfit with
    | stockEndpoint hstock => simp [hbasic] at hstock
    | noToken htoken => exact hsignable.token htoken
    | emptyOptionKey hmem hkey => exact (hsignable.options _ hmem).1 hkey
    | emptyOptionValue hmem hvalue => exact (hsignable.options _ hmem).2 hvalue

end Request

/-! ## Attempts and what they bring -/

/-- The last attempt was received whole, and this document is read from it. -/
def Brings (attempts : List Transfer) (document : Json.Value) : Prop :=
  ∃ last, attempts.getLast? = some last ∧ last.ending = .done ∧
    Json.Value.parse last.body = .ok document

/-- Why the attempts at a URL brought no document. -/
inductive Missing (env : Environment) (footing : Footing) (config : TransportConfig) (url : Url)
    (attempts : List Transfer) : FetchError → Prop
  | noDriver : attempts = [] → footing.obstacle? = some reason →
    Missing env footing config url attempts (.driver reason)
  | noHandle : attempts = [] → footing.obstacle? = none → env.refuse config url = some fault →
    Missing env footing config url attempts (.transport fault)
  | failed : attempts.getLast? = some last → last.ending = .failed fault →
    Missing env footing config url attempts (.transport fault)
  | nothing : attempts.getLast? = some last → last.ending = .done → last.body = [] →
    Missing env footing config url attempts .emptyResponse
  | malformed : attempts.getLast? = some last → last.ending = .done → last.body ≠ [] →
    Json.Value.parse last.body = .error e → Missing env footing config url attempts (.malformed e)

/-- The entry of a URL is settled by the attempts at it. -/
inductive Settled (env : Environment) (footing : Footing) (config : TransportConfig) (url : Url)
    (attempts : List Transfer) : Entry → Prop
  | document : Brings attempts v → Settled env footing config url attempts (.ok v)
  | missing : (∀ v, ¬ Brings attempts v) → Missing env footing config url attempts cause →
    Settled env footing config url attempts (.error cause)

/-- All that was started are these attempts at one URL: the replies of the network in turn, as many
as the policy makes. There are none only if the thread cannot drive transfers or no handle can be
made for the URL. -/
structure Attempted (env : Environment) (footing : Footing) (config : TransportConfig)
    (policy : Policy) (log : List String) (url : Url) (run : BatchRun)
    (attempts : List Transfer) : Prop where
  started : run.started = List.replicate attempts.length url
  answered : ∀ i t, attempts[i]? = some t → t = env.network.reply config log url i
  retried_iff : ∀ i t, attempts[i]? = some t →
    (policy.decide t.outcome i = .retry ↔ i + 1 < attempts.length)
  length_le : attempts.length ≤ policy.maxRetries.toNat + 1
  none_made : attempts = [] → (∃ reason, footing.obstacle? = some reason) ∨
    ∃ fault, env.refuse config url = some fault

theorem not_brings_nil (document : Json.Value) : ¬ Brings [] document := by
  rintro ⟨last, hlast, -⟩
  contradiction

theorem Brings.unique {attempts : List Transfer} {document document' : Json.Value}
    (h : Brings attempts document) (h' : Brings attempts document') : document = document' := by
  obtain ⟨last, hlast, -, hparse⟩ := h
  obtain ⟨last', hlast', -, hparse'⟩ := h'
  obtain rfl := Option.some.inj (hlast.symm.trans hlast')
  exact Except.ok.inj (hparse.symm.trans hparse')

theorem brings_snoc_iff {earlier : List Transfer} {last : Transfer} {document : Json.Value} :
    Brings (earlier ++ [last]) document ↔
      last.ending = .done ∧ Json.Value.parse last.body = .ok document := by
  simp [Brings]

namespace Settled

variable {env : Environment} {footing : Footing} {config : TransportConfig} {url : Url}
  {attempts : List Transfer} {entry : Entry}

/-- What is recorded after the last attempt tells what it brought. -/
theorem of_last (earlier : List Transfer) (last : Transfer) :
    Settled env footing config url (earlier ++ [last]) last.entry := by
  have hlast : (earlier ++ [last]).getLast? = some last := List.getLast?_concat
  unfold Transfer.entry
  cases hending : last.ending with
  | failed fault =>
    refine .missing (fun v hbrings => ?_) (.failed hlast hending)
    rw [brings_snoc_iff, hending] at hbrings
    exact absurd hbrings.1 (by simp)
  | done =>
    unfold Entry.ofTransfer Entry.ofBody
    cases hbody : last.body with
    | nil =>
      refine .missing (fun v hbrings => ?_) (.nothing hlast hending hbody)
      rw [brings_snoc_iff, hbody] at hbrings
      have hnothing : ∃ e, Json.Value.parse [] = .error e :=
        Json.Value.parse_unprinted (by simp)
      obtain ⟨e, hparse⟩ := hnothing
      rw [hparse] at hbrings
      exact absurd hbrings.2 (by simp)
    | cons b rest =>
      rw [List.isEmpty_cons, ← hbody]
      cases hparse : Json.Value.parse last.body with
      | ok document => exact .document (brings_snoc_iff.mpr ⟨hending, hparse⟩)
      | error e =>
        refine .missing (fun v hbrings => ?_) (.malformed hlast hending (by simp [hbody]) hparse)
        rw [brings_snoc_iff, hparse] at hbrings
        exact absurd hbrings.2 (by simp)

theorem ok_iff (h : Settled env footing config url attempts entry) {v : Json.Value} :
    entry = .ok v ↔ Brings attempts v := by
  cases h with
  | document hbrings =>
    constructor
    · intro hentry
      cases hentry
      exact hbrings
    · exact fun hbrings' => congrArg _ (hbrings.unique hbrings')
  | missing hnone => exact iff_of_false (by simp) (hnone v)

theorem error_iff (h : Settled env footing config url attempts entry) :
    (∃ cause, entry = .error cause ∧ Missing env footing config url attempts cause) ↔
      ∀ v, ¬ Brings attempts v := by
  cases h with
  | document hbrings => exact iff_of_false (by simp) fun hnone => hnone _ hbrings
  | missing hnone hmissing => exact iff_of_true ⟨_, rfl, hmissing⟩ hnone

end Settled

/-! ## A batch of one URL -/

namespace Batch

open Drive

variable (b : Batch) {e : Engine} {url : Url} {footing : Footing}

/-- One URL is attempted as the policy says, and the attempts settle its entry. -/
theorem run_one (custody : e.pool.Custody []) (hbuilt : ∀ a ∈ e.pool.handles, a.config = b.config)
    (hurls : b.urls.items = [url]) (hfree : footing.obstacle? = none) :
    ∃ entry attempts, (b.run e).1.results.entries.entries = [(url, entry)] ∧
      (b.run e).2.log = b.env.network.logAfter b.config e.log url attempts.length ∧
      Attempted b.env footing b.config b.policy e.log url (b.run e).1 attempts ∧
      Settled b.env footing b.config url attempts entry := by
  obtain ⟨seen, hreach, -, hscripted, hlog, hreplicate⟩ := b.loop_one custody hbuilt hurls
  have hanswered := hscripted url
  obtain ⟨entry, hget, hends⟩ := run_ends custody hreach (by rw [hurls]; exact List.mem_cons_self)
  have hentries : (b.run e).1.results.entries.entries = [(url, entry)] :=
    Results.entries_of_single (hurls ▸ run_keys_perm custody) hget
  refine ⟨entry, attemptsAt url seen, hentries, hlog, ?_⟩
  generalize attemptsAt url seen = attempts at hanswered hreplicate hends
  cases hends with
  | @refused fault hrefuse =>
    refine ⟨⟨hreplicate, hanswered, by simp, by simp, fun _ => .inr ⟨fault, hrefuse⟩⟩, ?_⟩
    exact .missing not_brings_nil (.noHandle rfl hfree hrefuse)
  | concluded hconcludes =>
    cases hconcludes with
    | @intro earlier last hearlier hlast =>
      refine ⟨⟨hreplicate, hanswered, Policy.retry_iff_of_finalize hearlier hlast, ?_, by simp⟩,
        .of_last earlier last⟩
      rw [List.length_append, List.length_singleton]
      exact Nat.add_le_add_right hearlier.length_le 1

end Batch

/-! ## Calls -/

namespace Client

/-- What a call tells of the entry of its URL. -/
inductive Told (endpoint : Endpoint) (url : Url) :
    Entry → Except ServiceError Json.Value → Prop
  | document : v ≠ .null → Told endpoint url (.ok v) (.ok v)
  | null : Told endpoint url (.ok .null) (.error (.noData endpoint))
  | failure : Told endpoint url (.error cause)
    (.error (.fetch ("1 of 1 urls failed: [" ++ url.text ++ ": " ++ cause.message ++ "]")))

variable {env : Environment} {footing : Footing} {config : TransportConfig} {c : Client}
  {endpoint : Endpoint} {o : RequestOptions} {url : Url} {s : Session}

theorem fetched_one (custody : s.engine.pool.Custody [])
    (hbuilt : ∀ a ∈ s.engine.pool.handles, a.config = config)
    (hsetup : s.engine.setup = .installed config) : ∃ entry attempts,
      (c.fetched env footing [url] s).results.entries.entries = [(url, entry)] ∧
      (c.left env footing [url] s).log =
        env.network.logAfter config s.engine.log url attempts.length ∧
      Attempted env footing config s.gate.policy s.engine.log url
        (c.fetched env footing [url] s) attempts ∧
      Settled env footing config url attempts entry := by
  have hne : (env.urlSet [url]).isEmpty = false := Environment.urlSet_isEmpty (by simp)
  have hconfig : (s.engine.setup.install env.build {}).config = .ok config := by
    rw [hsetup]
    rfl
  rw [fetched, left]
  cases hfooting : footing.obstacle? with
  | some reason =>
    have hitems := env.urlSet_single url
    rw [Engine.fetch_of_obstacle hne hconfig hfooting]
    refine ⟨.error (.driver reason), [], ?_, rfl, ?_,
      .missing not_brings_nil (.noDriver rfl hfooting)⟩
    · simp only [Results.allFailed, hitems]
      rfl
    · exact ⟨rfl, by simp, by simp, by simp, fun _ => .inl ⟨reason, hfooting⟩⟩
  | none =>
    rw [Engine.fetch_of_free hne hconfig hfooting]
    exact (c.batch env config [url] s).run_one (e := s.engine.ready env) custody hbuilt
      (env.urlSet_single url) hfooting

/-- An unfit request has no effect. -/
theorem get_of_unfit (h : Request.Unfit c.keys endpoint o) :
    ∃ reason, c.get env footing endpoint o s = (⟨.error (.invalidUrl reason), none⟩, s) := by
  unfold get
  split
  · exact ⟨_, rfl⟩
  · rename_i hbasic
    cases hurl : Request.endpointUrl c.config c.keys endpoint o with
    | error fault => exact ⟨fault.message, rfl⟩
    | ok url =>
      obtain ⟨hsignable, -⟩ := Request.endpointUrl_eq_ok_iff.mp hurl
      exact absurd h (Request.not_unfit_iff.mpr ⟨by simpa using hbasic, hsignable⟩)

/-- What a call leaves of a session: the engine of its batch, and the gate that this passed. -/
theorem perform_session (env : Environment) (footing : Footing) (c : Client) (urls : List Url)
    (s : Session) :
    let s' := (c.perform env footing urls s).2
    let start := s.gate.opensAt s.now
    s'.engine = c.left env footing urls s ∧
      s'.now = start + env.lasts start (c.fetched env footing urls s) ∧
      s.gate.Passed s.now start s'.now s'.gate :=
  ⟨rfl, s.gate.fetch_passed env footing s.engine s.now (env.urlSet urls) c.config.maxConnections⟩

/-- What comes of performing one URL is decided by its entry. -/
theorem perform_one {α : Type} (next : List Json.Value → Except ServiceError α) {entry : Entry}
    (hentries : (c.fetched env footing [url] s).results.entries.entries = [(url, entry)]) :
    ((c.perform env footing [url] s).1.result >>= fun documents => next (env.handOut documents)) =
      (entry.mapError fun cause => .fetch (BatchError.message ⟨[(url, cause)], 1⟩)) >>=
        fun document => next [document] := by
  have hexcept := Results.toExcept_of_single hentries (env.order .results)
  rw [perform_result]
  cases entry with
  | error cause =>
    rw [hexcept]
    rfl
  | ok document =>
    obtain ⟨documents, hdocuments, hsingle⟩ := hexcept
    have hhanded : env.handOut documents = [document] := by
      rw [Environment.handOut, hsingle, HashOrder.handOut_of_single]
      rfl
    rw [hdocuments]
    simp only [Except.mapError, bind, Except.bind, hhanded]

theorem told_of_fetched {result : Except ServiceError Json.Value} {entry : Entry}
    (hentries : (c.fetched env footing [url] s).results.entries.entries = [(url, entry)])
    (hresult : result = (c.perform env footing [url] s).1.result >>= fun documents =>
      match env.handOut documents with
      | [] | .null :: _ => .error (.noData endpoint)
      | document :: _ => .ok document) :
    Told endpoint url entry result := by
  have hone := perform_one (fun
    | [] | .null :: _ => .error (.noData endpoint)
    | document :: _ => .ok document) hentries
  rw [hresult.trans hone]
  cases entry with
  | error cause =>
    rw [Except.mapError, BatchError.message_single]
    exact .failure
  | ok document =>
    cases document with
    | null => exact .null
    | _ => exact .document (by simp)

variable (env footing s) in
/-- A call for a basic endpoint performs its URL, and tells what came of it. -/
theorem get_of_url (hbasic : endpoint.isStock = false)
    (hurl : Request.endpointUrl c.config c.keys endpoint o = .ok url) :
    (c.get env footing endpoint o s).1.run = some (c.fetched env footing [url] s) ∧
      (c.get env footing endpoint o s).2 = (c.perform env footing [url] s).2 ∧
      ∀ entry, (c.fetched env footing [url] s).results.entries.entries = [(url, entry)] →
        Told endpoint url entry (c.get env footing endpoint o s).1.result := by
  refine ⟨?run, ?session, fun entry hentries => told_of_fetched hentries ?result⟩
  all_goals
    simp only [get, hbasic, hurl]
    rfl

/-- Any other request is one batch of one URL. -/
theorem get_of_fit (h : ¬ Request.Unfit c.keys endpoint o) :
    ∃ url, Request.endpointUrl c.config c.keys endpoint o = .ok url ∧
      (c.get env footing endpoint o s).1.run = some (c.fetched env footing [url] s) ∧
      (c.get env footing endpoint o s).2 = (c.perform env footing [url] s).2 ∧
      ∀ entry, (c.fetched env footing [url] s).results.entries.entries = [(url, entry)] →
        Told endpoint url entry (c.get env footing endpoint o s).1.result := by
  obtain ⟨hbasic, hsignable⟩ := Request.not_unfit_iff.mp h
  have hmade : ∃ url, Request.endpointUrl c.config c.keys endpoint o = .ok url :=
    ⟨_, Request.endpointUrl_eq_ok_iff.mpr ⟨hsignable, rfl⟩⟩
  obtain ⟨url, hurl⟩ := hmade
  exact ⟨url, hurl, get_of_url env footing s hbasic hurl⟩

namespace Told

variable {entry : Entry} {result : Except ServiceError Json.Value}

theorem ok_iff (h : Told endpoint url entry result) {v : Json.Value} :
    result = .ok v ↔ v ≠ .null ∧ entry = .ok v := by
  cases h with
  | document hv =>
    constructor
    · intro hresult
      cases hresult
      exact ⟨hv, rfl⟩
    · rintro ⟨-, hentry⟩
      cases hentry
      rfl
  | null =>
    refine iff_of_false (by simp) ?_
    rintro ⟨hv, hentry⟩
    cases hentry
    exact hv rfl
  | failure => exact iff_of_false (by simp) (by simp)

theorem noData_iff (h : Told endpoint url entry result) {endpoint' : Endpoint} :
    result = .error (.noData endpoint') ↔ endpoint' = endpoint ∧ entry = .ok .null := by
  cases h with
  | document hv =>
    refine iff_of_false (by simp) ?_
    rintro ⟨-, hentry⟩
    cases hentry
    exact hv rfl
  | null => simp [eq_comm]
  | failure => exact iff_of_false (by simp) (by simp)

theorem fetch_iff (h : Told endpoint url entry result) {reason : String} :
    result = .error (.fetch reason) ↔ ∃ cause, entry = .error cause ∧
      reason = "1 of 1 urls failed: [" ++ url.text ++ ": " ++ cause.message ++ "]" := by
  cases h with
  | document | null => exact iff_of_false (by simp) (by simp)
  | failure => simp [eq_comm]

theorem ne_invalidUrl (h : Told endpoint url entry result) (reason : String) :
    result ≠ .error (.invalidUrl reason) := by
  cases h <;> simp

/-- Without a document the call tells why there is none. -/
theorem failed_iff {attempts : List Transfer} (h : Told endpoint url entry result)
    (hsettled : Settled env footing config url attempts entry) :
    (∀ v, ¬ Brings attempts v) ↔ ∃ cause, Missing env footing config url attempts cause ∧
      result = .error (.fetch
        ("1 of 1 urls failed: [" ++ url.text ++ ": " ++ cause.message ++ "]")) := by
  rw [← hsettled.error_iff]
  constructor
  · rintro ⟨cause, hentry, hmissing⟩
    exact ⟨cause, hmissing, h.fetch_iff.mpr ⟨cause, hentry, rfl⟩⟩
  · rintro ⟨_, -, hresult⟩
    obtain ⟨cause, rfl, -⟩ := h.fetch_iff.mp hresult
    cases hsettled with
    | missing _ hmissing => exact ⟨cause, rfl, hmissing⟩

end Told

end Client

/-- **One URL, four ends.** A request for a basic endpoint is refused exactly if it is unfit; then
nothing is sent and the gate notes no dispatch. Otherwise it passes the gate, which notes when its
batch has ended. Its URL alone is attempted, as the policy of the gate says: each attempt is what
the network replies after those before it, and the last one decides. The call brings the document
that is read from it, except for null, which is no data; and if there is no document it tells the
URL and the cause. -/
theorem get_outcome (config : TransportConfig) (log : List String) (batches : List Batch)
    (gate : Gate) (now : Instant) (env : Environment) (footing : Footing) (c : Client)
    (endpoint : Endpoint) (o : RequestOptions) :
    let s := Session.after (.installed config) log (batches.map (·.under config)) gate now
    let start := gate.opensAt now
    let r := c.get env footing endpoint o s
    ((∃ reason, r.1.result = .error (.invalidUrl reason)) ↔ Request.Unfit c.keys endpoint o) ∧
    (Request.Unfit c.keys endpoint o → r.1.run = none ∧ r.2 = s) ∧
    (¬ Request.Unfit c.keys endpoint o → ∃ url run attempts,
      Request.endpointUrl c.config c.keys endpoint o = .ok url ∧ r.1.run = some run ∧
      gate.Passed now start r.2.now r.2.gate ∧ r.2.now = start + env.lasts start run ∧
      run.results.entries.keys = [url] ∧
      Attempted env footing config gate.policy log url run attempts ∧
      r.2.engine.log = env.network.logAfter config log url attempts.length ∧
      (∀ v, r.1.result = .ok v ↔ v ≠ .null ∧ Brings attempts v) ∧
      (∀ endpoint', r.1.result = .error (.noData endpoint') ↔
        endpoint' = endpoint ∧ Brings attempts .null) ∧
      ((∀ v, ¬ Brings attempts v) ↔ ∃ cause, Missing env footing config url attempts cause ∧
        r.1.result = .error (.fetch
          ("1 of 1 urls failed: [" ++ url.text ++ ": " ++ cause.message ++ "]")))) ∧
    r.1.result ≠ .ok .null := by
  intro s start r
  by_cases hunfit : Request.Unfit c.keys endpoint o
  · obtain ⟨reason, hr⟩ : ∃ reason, r = (⟨.error (.invalidUrl reason), none⟩, s) :=
      Client.get_of_unfit hunfit
    rw [hr]
    exact ⟨iff_of_true ⟨reason, rfl⟩ hunfit, fun _ => ⟨rfl, rfl⟩, absurd hunfit, by simp⟩
  obtain ⟨url, hurl, hrun, hsession, htold⟩ :
      ∃ url, Request.endpointUrl c.config c.keys endpoint o = .ok url ∧
        r.1.run = some (c.fetched env footing [url] s) ∧
        r.2 = (c.perform env footing [url] s).2 ∧ ∀ entry,
          (c.fetched env footing [url] s).results.entries.entries = [(url, entry)] →
            Client.Told endpoint url entry r.1.result := Client.get_of_fit hunfit
  obtain ⟨hengine, hnow, hpassed⟩ := Client.perform_session env footing c [url] s
  rw [← hsession] at hengine hnow hpassed
  obtain ⟨entry, attempts, hentries, hlog, hattempted, hsettled⟩ :
      ∃ entry attempts,
        (c.fetched env footing [url] s).results.entries.entries = [(url, entry)] ∧
        (c.left env footing [url] s).log = env.network.logAfter config log url attempts.length ∧
        Attempted env footing config gate.policy log url (c.fetched env footing [url] s) attempts ∧
        Settled env footing config url attempts entry :=
    Client.fetched_one Session.after_custody Session.after_built rfl
  have htold := htold entry hentries
  refine ⟨iff_of_false ?_ hunfit, (absurd · hunfit), fun _ => ⟨url, _, attempts, hurl, hrun,
    hpassed, hnow, ?keys, hattempted, hengine ▸ hlog, fun v => ?data, fun endpoint' => ?noData,
    htold.failed_iff hsettled⟩, ?null⟩
  · rintro ⟨reason, h⟩
    exact htold.ne_invalidUrl reason h
  case keys => rw [SortedMap.keys, hentries]; rfl
  case data => rw [htold.ok_iff, hsettled.ok_iff]
  case noData => rw [htold.noData_iff, hsettled.ok_iff]
  case null =>
    intro hresult
    exact (htold.ok_iff.mp hresult).1 rfl

end MarketData
