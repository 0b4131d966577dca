import MarketData.Proofs.Batch.Transparency
import MarketData.Proofs.Client.Alike
import MarketData.Proofs.Stock.Chunks

/-! What results show of the token. A server that does not look at tokens brings two accounts the
same documents, though hash tables keyed by URLs may hand them out in different orders. The error of
a failed fetch names the URLs, and these carry the token. -/

namespace MarketData

/-! ## Attempts that end alike -/

/-- Both came to their end, or both failed, with the same status if there was one. What the faults
say may differ. -/
inductive Ending.Alike : Ending → Ending → Prop
  | done : Alike .done .done
  | failed : fault.status? = fault'.status? → Alike (.failed fault) (.failed fault')

structure Transfer.Alike (t t' : Transfer) : Prop where
  chunks : t.chunks = t'.chunks
  ending : t.ending.Alike t'.ending

/-- The same failure, but for what a fault of the transport says. -/
inductive FetchError.Alike : FetchError → FetchError → Prop
  | same : Alike e e
  | transport : fault.status? = fault'.status? → Alike (.transport fault) (.transport fault')

/-- The same document, or failures alike. -/
inductive Entry.Alike : Entry → Entry → Prop
  | document : Alike (.ok v) (.ok v)
  | failure : FetchError.Alike e e' → Alike (.error e) (.error e')

theorem Entry.Alike.refl {entry : Entry} : entry.Alike entry := by
  cases entry with
  | ok v => exact .document
  | error e => exact .failure .same

namespace Transfer.Alike

variable {t t' : Transfer}

theorem body (h : t.Alike t') : t.body = t'.body := by
  rw [Transfer.body, Transfer.body, h.chunks]

theorem outcome (h : t.Alike t') : t.outcome = t'.outcome := by
  have hbody := h.body
  obtain ⟨chunks, ending⟩ := t
  obtain ⟨chunks', ending'⟩ := t'
  obtain ⟨-, hending⟩ := h
  cases hending with
  | done => simp only [Transfer.outcome, hbody]
  | failed hstatus => simp only [Transfer.outcome, hstatus]

theorem entry (h : t.Alike t') :
    Entry.Alike (Entry.ofTransfer t.body t.ending) (Entry.ofTransfer t'.body t'.ending) := by
  have hbody := h.body
  obtain ⟨chunks, ending⟩ := t
  obtain ⟨chunks', ending'⟩ := t'
  obtain ⟨-, hending⟩ := h
  cases hending with
  | done =>
    rw [hbody]
    exact .refl
  | failed hstatus => exact .failure (.transport hstatus)

end Transfer.Alike

namespace Policy

variable {policy : Policy} {reply reply' : Nat → Transfer}

theorem lastAttempt_of_alike (h : ∀ n, (reply n).Alike (reply' n)) :
    policy.lastAttempt reply = policy.lastAttempt reply' := by
  refine Nat.find_congr' fun {n} => ?_
  rw [(h n).outcome]

theorem entry_of_alike (h : ∀ n, (reply n).Alike (reply' n)) :
    (policy.entry reply).Alike (policy.entry reply') := by
  unfold Policy.entry
  rw [lastAttempt_of_alike h]
  exact (h _).entry

end Policy

/-! ## Results that are alike -/

/-- Failures of URLs that differ in their tokens alone, the same but for what faults say. -/
def FailedAlike (failure failure' : Url × FetchError) : Prop :=
  failure.1.SameButToken failure'.1 ∧ failure.2.Alike failure'.2

namespace Results

variable {r r' : Results} {urls urls' : List Url} {found found' : Url → Entry}

/-- The results are those of these URLs, each with what was found for it. -/
def Holds (r : Results) (urls : List Url) (found : Url → Entry) : Prop :=
  ∀ url entry, (url, entry) ∈ r.toList ↔ url ∈ urls ∧ entry = found url

theorem Holds.perm (h : r.Holds urls found) (hurls : urls.Nodup) :
    (urls.map fun url => (url, found url)).Perm r.toList := by
  have hnodup : (urls.map fun url => (url, found url)).Nodup :=
    hurls.map fun _ _ heq => (Prod.mk.inj heq).1
  have hnodup' : r.toList.Nodup := r.entries.keys_nodup.of_map
  refine (List.perm_ext_iff_of_nodup hnodup hnodup').mpr ?_
  rintro ⟨url, entry⟩
  rw [h url entry, List.mem_map]
  constructor
  · rintro ⟨url, hmem, hpair⟩
    cases hpair
    exact ⟨hmem, rfl⟩
  · rintro ⟨hmem, rfl⟩
    exact ⟨url, hmem, rfl⟩

/-- Entries that are alike, in any order. -/
theorem alike_of_entries (h : Matched (fun p p' : Url × Entry =>
      p.1.SameButToken p'.1 ∧ p.2.Alike p'.2) r.toList r'.toList) : r.Alike FailedAlike r' where
  failures := by
    refine Matched.filterMap h ?_
    rintro ⟨url, entry⟩ ⟨url', entry'⟩ ⟨hurl, hentry⟩
    cases hentry with
    | document => exact .none
    | failure he => exact .some ⟨hurl, he⟩
  documents := by
    refine Matched.perm_of_eq ?_
    rw [Results.documents, Results.documents, List.map_filterMap, List.map_filterMap]
    refine Matched.filterMap h ?_
    rintro ⟨url, entry⟩ ⟨url', entry'⟩ ⟨hurl, hentry⟩
    cases hentry with
    | document => exact .some rfl
    | failure => exact .none
  size := h.length_eq

theorem Holds.alike (h : r.Holds urls found) (h' : r'.Holds urls' found') (hnodup : urls.Nodup)
    (hnodup' : urls'.Nodup) (hurls : List.Forall₂ Url.SameButToken urls urls')
    (hfound : ∀ {url url'}, url.SameButToken url' → (found url).Alike (found' url')) :
    r.Alike FailedAlike r' := by
  refine alike_of_entries ⟨_, _, h.perm hnodup, h'.perm hnodup', ?_⟩
  rw [List.forall₂_map_left_iff, List.forall₂_map_right_iff]
  exact hurls.imp fun _ _ hsame => ⟨hsame, hfound hsame⟩

end Results

/-! ## Servers that do not look at tokens -/

/-- Attempts at URLs that differ in their tokens alone end alike. -/
def TokenBlind (replies : Url → Nat → Transfer) : Prop :=
  ∀ {url url'}, url.SameButToken url' → ∀ n, (replies url n).Alike (replies url' n)

/-- Handles can be made, and from now on the n-th attempt at a URL brings what `replies` says. -/
structure Environment.Brings (env : Environment) (log : List String)
    (replies : Url → Nat → Transfer) : Prop where
  made : ∀ config url, env.refuse config url = none
  network : env.network = .ofScript fun url n => replies url (n - log.count url.text)

/-- A batch settles its URLs as the replies have it, whichever handles it is lent. -/
theorem Batch.settles_of_brings {b : Batch} {e : Engine} {replies : Url → Nat → Transfer}
    (c : e.pool.Custody []) (h : b.env.Brings e.log replies) :
    Settles b.policy replies b.urls.items (b.run e).1.results (b.run e).1.started := by
  obtain ⟨hsettles, -⟩ := settles_of_custody c h.network fun url => h.made b.config url
  rwa [scriptAfter_sub] at hsettles

/-- After these logs nothing that two threads are told depends on the token: handles can be made,
and where their URLs differ in the token alone, the n-th of successive requests brings them the
same. What a request brings may depend on all requests before it. -/
structure Environment.Impartial (config : TransportConfig) (env env' : Environment)
    (log log' : List String) : Prop where
  made : ∀ url, env.refuse config url = none
  made' : ∀ url, env'.refuse config url = none
  replies : ∀ {url url'}, url.SameButToken url' → ∀ n,
    (env.network.reply config log url n).Alike (env'.network.reply config log' url' n)

/-- Replies are alike if the networks answer alike after logs that match, and the logs still match
then. -/
theorem Network.reply_alike {network network' : Network} {config : TransportConfig}
    {url url' : Url} (SameLog : List String → List String → Prop)
    (hanswer : ∀ log log', SameLog log log' →
      (network.answer config log url).transfer.Alike (network'.answer config log' url').transfer ∧
      SameLog (log ++ (network.answer config log url).targets)
        (log' ++ (network'.answer config log' url').targets))
    {log log' : List String} (hlog : SameLog log log') (n : Nat) :
    (network.reply config log url n).Alike (network'.reply config log' url' n) := by
  have hlogs : ∀ n, SameLog (network.logAfter config log url n)
      (network'.logAfter config log' url' n) := by
    intro n
    induction n with
    | zero => exact hlog
    | succ n ih => exact (hanswer _ _ ih).2
  exact (hanswer _ _ (hlogs n)).1

/-! ## What a call finds -/

/-- What there is for a URL in the end. -/
def found (footing : Footing) (policy : Policy) (replies : Url → Nat → Transfer) (url : Url) :
    Entry :=
  match footing.obstacle? with
  | some reason => .error (.driver reason)
  | none => policy.entry (replies url)

theorem found_alike {footing : Footing} {policy : Policy} {replies replies' : Url → Nat → Transfer}
    {url url' : Url} (h : ∀ n, (replies url n).Alike (replies' url' n)) :
    (found footing policy replies url).Alike (found footing policy replies' url') := by
  unfold found
  split
  · exact .refl
  · exact Policy.entry_of_alike h

/-- A session with a transport: all handles are built from its configuration. -/
structure Session.Transported (config : TransportConfig) (s : Session) : Prop where
  custody : s.engine.pool.Custody []
  built : ∀ a ∈ s.engine.pool.handles, a.config = config
  installed : s.engine.setup = .installed config

theorem Session.Transported.install_config {config : TransportConfig} {s : Session}
    (h : s.Transported config) (env : Environment) :
    (s.engine.setup.install env.build {}).config = .ok config := by
  rw [h.installed]
  rfl

namespace Client

variable {transport : TransportConfig} {env env' : Environment} {footing : Footing}
  {c c' : Client} {s s' : Session} {url url' : Url} {urls urls' : List Url}
  {replies : Url → Nat → Transfer}

/-- For a single URL all replies count, whatever they depend on. -/
theorem fetched_single (footing : Footing) (h : s.Transported transport)
    (hmade : env.refuse transport url = none) :
    (c.fetched env footing [url] s).results.entries.entries =
      [(url, found footing s.gate.policy (env.network.reply transport s.engine.log) url)] := by
  have hne : (env.urlSet [url]).isEmpty = false := Environment.urlSet_isEmpty (List.cons_ne_nil _ _)
  have hurl := env.urlSet_single url
  have hconfig := h.install_config env
  have hkeys : (c.fetched env footing [url] s).results.entries.keys.Perm (env.urlSet [url]).items :=
    Engine.fetch_path.keys_perm h.custody
  rw [hurl] at hkeys
  refine Results.entries_of_single hkeys ?_
  unfold found
  cases hfooting : footing.obstacle? with
  | some reason =>
    rw [fetched, Engine.fetch_of_obstacle hne hconfig hfooting, Results.get?_allFailed, hurl]
    exact if_pos (List.mem_singleton_self url)
  | none =>
    rw [fetched_of_free (List.cons_ne_nil _ _) hconfig hfooting]
    exact (c.batch env transport [url] s).entry_of_replies (e := s.engine.ready env) h.custody
      h.built hurl hmade

theorem fetched_holds (h : s.Transported transport) (hne : urls ≠ [])
    (hbrings : env.Brings s.engine.log replies) :
    (c.fetched env footing urls s).results.Holds urls
      (found footing s.gate.policy replies) := by
  have hconfig := h.install_config env
  intro url entry
  unfold found
  cases hfooting : footing.obstacle? with
  | some reason =>
    rw [fetched, Engine.fetch_of_obstacle (Environment.urlSet_isEmpty hne) hconfig hfooting,
      Results.toList, SortedMap.mem_entries, Results.get?_allFailed]
    by_cases hurl : url ∈ urls
    · simp [Environment.mem_urlSet, hurl, eq_comm]
    · simp [Environment.mem_urlSet, hurl]
  | none =>
    have hcustody : (s.engine.ready env).pool.Custody [] := h.custody
    have hsettles := Batch.settles_of_brings (b := c.batch env transport urls s) hcustody hbrings
    rw [fetched_of_free hne hconfig hfooting, hsettles.mem_toList]
    exact and_congr_left' Environment.mem_urlSet

/-! ## Calls -/

variable {config : ServiceConfig} {keys keys' : Keys} {endpoints : List Endpoint}
  {endpoint : Endpoint} {symbols : SymbolSet} {o : RequestOptions}

theorem Told.same {entry entry' : Entry} {result result' : Except ServiceError Json.Value}
    (h : Told endpoint url entry result) (h' : Told endpoint url' entry' result')
    (hurl : url.SameButToken url') (hentry : entry.Alike entry') :
    SameResult FailedAlike result result' := by
  cases hentry with
  | document =>
    cases h with
    | document hv =>
      cases h' with
      | document => exact .same
      | null => contradiction
    | null =>
      cases h' with
      | document hv => contradiction
      | null => exact .same
  | failure he =>
    cases h
    cases h'
    simp only [← BatchError.message_single]
    exact .fetch ⟨⟨_, _, .refl _, .refl _, .cons ⟨hurl, he⟩ .nil⟩, rfl⟩

theorem sameResult_of_entries {α : Type} {next : List Json.Value → Except ServiceError α}
    {entry entry' : Entry} (hurl : url.SameButToken url') (hentry : entry.Alike entry') :
    SameResult FailedAlike
      ((entry.mapError fun cause => .fetch (BatchError.message ⟨[(url, cause)], 1⟩)) >>=
        fun document => next [document])
      ((entry'.mapError fun cause => .fetch (BatchError.message ⟨[(url', cause)], 1⟩)) >>=
        fun document => next [document]) := by
  cases hentry with
  | document => exact .same
  | failure he => exact .fetch ⟨⟨_, _, .refl _, .refl _, .cons ⟨hurl, he⟩ .nil⟩, rfl⟩

/-- Two sessions with one transport and one policy. -/
structure Paired (transport : TransportConfig) (s s' : Session) : Prop where
  left : s.Transported transport
  right : s'.Transported transport
  policy : s.gate.policy = s'.gate.policy

theorem get_same (p : Paired transport s s')
    (himpartial : env.Impartial transport env' s.engine.log s'.engine.log)
    (htoken : keys.token o.dataType ≠ "") (htoken' : keys'.token o.dataType ≠ "")
    (endpoint : Endpoint) :
    SameResult FailedAlike ((⟨keys, config⟩ : Client).get env footing endpoint o s).1.result
      ((⟨keys', config⟩ : Client).get env' footing endpoint o s').1.result := by
  rcases get_cases ⟨keys, config⟩ ⟨keys', config⟩ (Request.endpointUrl_both htoken htoken' endpoint)
    env env' footing s s' with ⟨hsame, -⟩ | ⟨url, url', hsame, -, -, htold, htold'⟩
  · rw [hsame]
    exact .same
  · refine (htold _ (fetched_single footing p.left (himpartial.made _))).same
      (htold' _ (fetched_single footing p.right (himpartial.made' _))) hsame ?_
    rw [p.policy]
    exact found_alike (himpartial.replies hsame)

/-- The URLs of a request that fits one chunk. -/
theorem stockUrls_single (hsize : symbols.size ≤ 100) (hne : symbols.items ≠ [])
    (h : Request.stockUrls config keys endpoints symbols o = .ok urls) : ∃ url, urls = [url] := by
  obtain ⟨-, heach⟩ := Request.stockUrls_partition h
  have hcount := (Request.symbolChunks_partition symbols).count
  have hpos : 0 < symbols.size := List.length_pos_iff.mpr hne
  refine List.length_eq_one_iff.mp ?_
  rw [← heach.length_eq, hcount]
  omega

/-- A request that fits one chunk has one reply, whatever this depends on. -/
theorem getStock_single (p : Paired transport s s')
    (himpartial : env.Impartial transport env' s.engine.log s'.engine.log)
    (htoken : keys.token o.dataType ≠ "") (htoken' : keys'.token o.dataType ≠ "")
    (endpoints : List Endpoint) (hsize : symbols.size ≤ 100) :
    SameResult FailedAlike
      ((⟨keys, config⟩ : Client).getStock env footing endpoints symbols o s).1.result
      ((⟨keys', config⟩ : Client).getStock env' footing endpoints symbols o s').1.result := by
  rcases getStock_cases ⟨keys, config⟩ ⟨keys', config⟩
    (Request.stockUrls_both htoken htoken' symbols) env env' footing s s' with
    ⟨hsame, -⟩ | ⟨urls, urls', hsymbols, hmade, hmade', heach, hcall, hcall'⟩
  · rw [hsame]
    exact .same
  obtain ⟨url, rfl⟩ := stockUrls_single hsize hsymbols hmade
  obtain ⟨url', rfl⟩ := stockUrls_single hsize hsymbols hmade'
  obtain ⟨hsame, -⟩ := List.forall₂_cons.mp heach
  have hone := perform_one (StockData.ofResponses endpoints symbols)
    (fetched_single (c := ⟨keys, config⟩) footing p.left (himpartial.made url))
  have hone' := perform_one (StockData.ofResponses endpoints symbols)
    (fetched_single (c := ⟨keys', config⟩) footing p.right (himpartial.made' url'))
  simp only [hcall, hcall', gather]
  rw [hone, hone', p.policy]
  exact sameResult_of_entries hsame (found_alike (himpartial.replies hsame))

theorem getStock_same (p : Paired transport s s') (hbrings : env.Brings s.engine.log replies)
    (hbrings' : env'.Brings s'.engine.log replies) (hblind : TokenBlind replies)
    (htoken : keys.token o.dataType ≠ "") (htoken' : keys'.token o.dataType ≠ "")
    (endpoints : List Endpoint) (symbols : SymbolSet) :
    let c : Client := ⟨keys, config⟩
    let call := (c.getStock env footing endpoints symbols o s).1
    let call' := ((⟨keys', config⟩ : Client).getStock env' footing endpoints symbols o s').1
    SameStock FailedAlike endpoints symbols call.documents call.result call'.result ∧
      ∀ f, env.network.TellsOf f c endpoints symbols o →
        SameResult FailedAlike call.result call'.result := by
  intro c call call'
  rcases getStock_cases ⟨keys, config⟩ ⟨keys', config⟩
    (Request.stockUrls_both htoken htoken' symbols) env env' footing s s' with
    ⟨hsame, -⟩ | ⟨urls, urls', hsymbols, hmade, hmade', heach, hcall, hcall'⟩
  · have hsame : call = call' := hsame
    rw [hsame]
    exact ⟨.same, fun _ _ => .same⟩
  have hne : urls ≠ [] := Request.stockUrls_ne_nil hsymbols hmade
  have hne' : urls' ≠ [] := Request.stockUrls_ne_nil hsymbols hmade'
  have hholds : (c.fetched env footing urls s).results.Holds urls _ :=
    fetched_holds p.left hne hbrings
  have hholds' : ((⟨keys', config⟩ : Client).fetched env' footing urls' s').results.Holds
      urls' _ := fetched_holds p.right hne' hbrings'
  rw [← p.policy] at hholds'
  have halike := hholds.alike hholds' (Request.stockUrls_partition hmade).1
    (Request.stockUrls_partition hmade').1 heach fun hsame => found_alike (hblind hsame)
  simp only [call, call', c, hcall, hcall']
  exact ⟨gather_same halike, fun f =>
    gather_same_of_tellsOf halike p.left.custody hmade hne⟩

end Client

/-- A thread after any batches, in a process with a transport. -/
theorem Session.after_transported {config : TransportConfig} {log : List String}
    {batches : List Batch} {gate : Gate} {now : Instant} :
    (after (.installed config) log (batches.map (·.under config)) gate now).Transported config :=
  ⟨after_custody, after_built, rfl⟩

/-- **The token shows in failures only.** Two accounts ask for the same, each on a thread of its own
history. Their clients look the same. If nothing that they are told depends on the token, a call for
one URL has the same result for both, data or error, except that failures to fetch may be worded
differently: the URLs that they name differ in their tokens, and faults of the transport may name
URLs too. So has a call for several URLs, of which the server treats each alone, if the server tells
of each symbol what `f` has for it, though tables may be traversed in any order. If it contradicts
itself the same documents are merged, in an order that differs. -/
theorem token_hidden (transport : TransportConfig) (policy : Policy) (last last' : Option Instant)
    (log log' : List String) (batches batches' : List Batch) (now now' : Instant)
    (env env' : Environment) (footing : Footing) (config : ServiceConfig) {keys keys' : Keys}
    {o : RequestOptions} (htoken : keys.token o.dataType ≠ "")
    (htoken' : keys'.token o.dataType ≠ "") :
    let c : Client := ⟨keys, config⟩
    let c' : Client := ⟨keys', config⟩
    let s := Session.after (.installed transport) log (batches.map (·.under transport))
      ⟨policy, last⟩ now
    let s' := Session.after (.installed transport) log' (batches'.map (·.under transport))
      ⟨policy, last'⟩ now'
    c.debug = c'.debug ∧
    (env.Impartial transport env' log log' →
      (∀ endpoint, SameResult FailedAlike (c.get env footing endpoint o s).1.result
        (c'.get env' footing endpoint o s').1.result) ∧
      ∀ endpoints (symbols : SymbolSet), symbols.size ≤ 100 →
        SameResult FailedAlike (c.getStock env footing endpoints symbols o s).1.result
          (c'.getStock env' footing endpoints symbols o s').1.result) ∧
    ∀ replies, env.Brings log replies → env'.Brings log' replies → TokenBlind replies →
      ∀ endpoints symbols,
        let call := (c.getStock env footing endpoints symbols o s).1
        let call' := (c'.getStock env' footing endpoints symbols o s').1
        SameStock FailedAlike endpoints symbols call.documents call.result call'.result ∧
          ∀ f, env.network.TellsOf f c endpoints symbols o →
            SameResult FailedAlike call.result call'.result := by
  intro c c' s s'
  have p : Client.Paired transport s s' :=
    ⟨Session.after_transported, Session.after_transported, rfl⟩
  refine ⟨rfl, fun himpartial => ⟨?_, ?_⟩, ?_⟩
  · intro endpoint
    exact Client.get_same p himpartial htoken htoken' endpoint
  · intro endpoints symbols hsize
    exact Client.getStock_single p himpartial htoken htoken' endpoints hsize
  · intro replies hbrings hbrings' hblind endpoints symbols
    exact Client.getStock_same p hbrings hbrings' hblind htoken htoken' endpoints symbols

/-! Two accounts, and servers that treat each the same: one turns the first request away, whichever
it is, one tells the same of every symbol, and one cannot be reached. -/
namespace TwoAccounts

def client (secretKey : String) : Client := ⟨{ secretKey }, {}⟩

def busy : Environment where
  network := ⟨fun _ log url =>
    ⟨[url.text], if log = [] then .failed (.errorStatus 429 "X" url.text) else ⟨[[0x31]], .done⟩⟩⟩

/-- The environment of `OneKnown` in which tables are traversed backwards. -/
def backwards : Environment :=
  { OneKnown.env with order := fun _ => ⟨List.reverse, List.reverse_perm⟩ }

def told (_ : Url) (_ : Nat) : Transfer := ⟨[OneKnown.body], .done⟩

def away (url : Url) (_ : Nat) : Transfer := .failed (.notSent url.text (.unreachable true))

def unreachable : Environment where
  network := .ofScript away

def session : Session := .after (.installed {}) [] [] ⟨.service, none⟩ 0

theorem busy_impartial : busy.Impartial {} busy [] [] where
  made := fun _ => rfl
  made' := fun _ => rfl
  replies := by
    intro url url' _ n
    refine Network.reply_alike (fun log log' => log = [] ↔ log' = [])
      (fun log log' hsame => ?_) Iff.rfl n
    simp only [busy, hsame]
    refine ⟨?_, by simp⟩
    split
    · exact ⟨rfl, .failed rfl⟩
    · exact ⟨rfl, .done⟩

theorem told_blind : TokenBlind told := fun _ _ => ⟨rfl, .done⟩

theorem away_blind : TokenBlind away := fun _ _ => ⟨rfl, .failed rfl⟩

end TwoAccounts

open TwoAccounts

theorem token_hidden_busy :
    busy.Impartial {} busy [] [] ∧ (client "k1").debug = (client "k2").debug ∧
    SameResult FailedAlike ((client "k1").get busy .free .systemStatus {} session).1.result
      ((client "k2").get busy .free .systemStatus {} session).1.result ∧
    ((client "k1").get busy .free .systemStatus {} session).1.result =
      .ok (.number (.integer 1)) ∧
    OneKnown.env.Brings [] told ∧ backwards.Brings [] told ∧
    OneKnown.env.network.TellsOf OneKnown.known (client "k1") [.quote] OneKnown.symbols {} ∧
    SameResult FailedAlike
      ((client "k1").getStock OneKnown.env .free [.quote] OneKnown.symbols {} session).1.result
      ((client "k2").getStock backwards .free [.quote] OneKnown.symbols {} session).1.result := by
  have htoken : ({ secretKey := "k1" } : Keys).token ({} : RequestOptions).dataType ≠ "" := by
    decide
  have htoken' : ({ secretKey := "k2" } : Keys).token ({} : RequestOptions).dataType ≠ "" := by
    decide
  have hbrings : OneKnown.env.Brings [] told := ⟨fun _ _ => rfl, rfl⟩
  have hbrings' : backwards.Brings [] told := ⟨fun _ _ => rfl, rfl⟩
  obtain ⟨hdebug, hone, -⟩ := token_hidden {} .service none none [] [] [] [] 0 0 busy busy .free {}
    htoken htoken'
  obtain ⟨-, -, hmany⟩ := token_hidden {} .service none none [] [] [] [] 0 0 OneKnown.env backwards
    .free {} htoken htoken'
  have hserver : OneKnown.env.network.TellsOf OneKnown.known (client "k1") [.quote]
    OneKnown.symbols {} := OneKnown.tellsOf _
  obtain ⟨-, hstock⟩ := hmany told hbrings hbrings' told_blind [.quote] OneKnown.symbols
  have hsame := hstock OneKnown.known hserver
  rw [List.map_nil] at hsame
  refine ⟨busy_impartial, hdebug, (hone busy_impartial).1 .systemStatus, by rfl, hbrings, hbrings',
    hserver, ?_⟩
  unfold client session
  exact hsame

/-- A failed fetch tells the token. -/
theorem token_reported :
    TokenBlind away ∧
    ((client "k1").get unreachable .free .systemStatus {} session).1.result =
      .error (.fetch ("1 of 1 urls failed: [https://cloud.iexapis.com/stable/status?token=k1: " ++
        "Transport failure: error sending request for url " ++
        "(https://cloud.iexapis.com/stable/status?token=k1)]")) ∧
    ((client "k2").get unreachable .free .systemStatus {} session).1.result =
      .error (.fetch ("1 of 1 urls failed: [https://cloud.iexapis.com/stable/status?token=k2: " ++
        "Transport failure: error sending request for url " ++
        "(https://cloud.iexapis.com/stable/status?token=k2)]")) := by
  exact ⟨away_blind, rfl, rfl⟩

end MarketData
