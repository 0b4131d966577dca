import MarketData.Batch.Drive
import MarketData.Batch.Results

/-! Fetching a set of URLs as one batch. An `Engine` is what a thread keeps from one batch to the
next: the state of the one-time transport set-up, its pool of handles, and the log of targets
requested. An `Environment` is everything that a batch does not decide for itself. -/

namespace MarketData

/-- Whether the calling thread can drive transfers. -/
inductive Footing
  | free
  /-- A batch of the same thread is under way. -/
  | busy
  /-- The thread belongs to an asynchronous runtime and must not block. -/
  | async
  | broken (reason : String)
deriving DecidableEq, Repr

def Footing.obstacle? : Footing → Option String
  | .free => none
  | .busy => some "scheduler already in use on this thread"
  | .async => some "called from within an async runtime; use spawn_blocking"
  | .broken reason => some reason

/-- How the handles of a batch were got. -/
structure PoolUse where
  reused : Nat
  rebound : Nat
  fresh : Nat
  idleDuring : Nat
  created : Nat
  idleAfter : Nat
deriving DecidableEq, Repr

structure BatchRun where
  results : Results
  /-- Absent if no transfer was attempted. -/
  poolUse : Option PoolUse := none
  started : List Url := []
  retried : List Retry := []

/-- The hash tables that a call goes through. -/
inductive Table
  /-- The URLs to fetch. -/
  | urls
  /-- What there is for each URL of a batch. -/
  | results
  /-- The documents among it. -/
  | documents
deriving DecidableEq, Repr

structure Environment where
  network : Network
  /-- Whether a client can be built from a configuration. -/
  build : ClientBuilder := fun _ => .ok ()
  /-- Why no handle can be made for a URL, if so. -/
  refuse : TransportConfig → Url → Option TransportFault := fun _ _ => none
  /-- Which idle handle is rebound next. -/
  pickIdle : Pool → Nat := fun _ => 0
  /-- Which transfer in flight ends next. -/
  pickFlight : Drive → Nat := fun _ => 0
  /-- How each table is gone through. -/
  order : Table → HashOrder Url := fun _ => .given
  /-- How long a batch takes that starts at this instant. -/
  lasts : Instant → BatchRun → Milliseconds := fun _ _ => 0

namespace Environment

/-- These URLs as a set. -/
def urlSet (env : Environment) (urls : List Url) : UrlSet :=
  (env.order .urls).members (Distinct.ofList urls)

/-- The documents of a map, one after the other. -/
def handOut (env : Environment) (documents : SortedMap Url Json.Value) : List Json.Value :=
  ((env.order .documents).handOut documents.entries).map (·.2)

end Environment

structure Engine where
  setup : Setup := .pending
  pool : Pool := .empty
  log : List String := []

namespace Engine

/-- Sets the transport up unless that was tried before; tells the outcome of the first attempt. -/
def install (env : Environment) (config : TransportConfig) (e : Engine) :
    Except FetchError Unit × Engine :=
  let setup := e.setup.install env.build config
  let outcome :=
    match setup.config with
    | .ok _ => .ok ()
    | .error reason => .error (.setup reason)
  (outcome, { e with setup })

/-- Records what each finished handle brought, and gives the emptied handles. -/
def collect (results : Results) (finished : List (Handle × Ending)) : Results × List Handle :=
  finished.foldl (fun (results, handles) (h, ending) =>
    let (body, h) := h.takeBody
    (results.record h.url (Entry.ofTransfer body ending), handles ++ [h])) (results, [])

/-- A batch on a thread that can drive it, with the transport set up. -/
def runBatch (env : Environment) (config : TransportConfig) (urls : UrlSet) (maxConnections : Nat)
    (policy : Policy) (e : Engine) : BatchRun × Engine :=
  let (acquired, pool) := e.pool.acquire env.pickIdle (env.refuse config) config urls
  let refused := acquired.refused.foldl (fun r (url, fault) =>
    r.record url (.error (.transport fault))) Results.empty
  let (d, log) :=
    Drive.run policy maxConnections env.pickFlight
      (fun log h => env.network.answer h.config log h.url)
      (Drive.turns policy acquired.handles) e.log (Drive.start maxConnections acquired.handles)
  let (results, handles) := collect refused d.finished
  let released := pool.release handles
  let poolUse : PoolUse := {
    reused := acquired.bound.length
    rebound := acquired.rebound.length
    fresh := acquired.fresh.length
    idleDuring := pool.idle.size
    created := pool.created
    idleAfter := released.idle.size }
  ({ results, poolUse, started := d.started, retried := d.retried },
    { e with pool := released, log })

/-- Fetches every URL. An empty set needs no transport; otherwise a thread without transport, or
that cannot drive transfers, fails each URL for that reason and sends nothing. -/
def fetch (env : Environment) (footing : Footing) (urls : UrlSet) (maxConnections : Nat)
    (policy : Policy) (e : Engine) : BatchRun × Engine :=
  if urls.isEmpty then ({ results := .empty }, e)
  else
    let e := { e with setup := e.setup.install env.build {} }
    match e.setup.config, footing.obstacle? with
    | .error reason, _ => ({ results := .allFailed urls (.setup reason) }, e)
    | .ok _, some reason => ({ results := .allFailed urls (.driver reason) }, e)
    | .ok config, none => runBatch env config urls maxConnections policy e

/-- Fetches one URL, and tells only the document. -/
def fetchOne (env : Environment) (footing : Footing) (url : Url) (maxConnections : Nat)
    (policy : Policy) (e : Engine) : Option Json.Value × BatchRun × Engine :=
  let (run, e) := e.fetch env footing (Distinct.singleton url) maxConnections policy
  ((run.results.remove url).1.bind (·.toOption), run, e)

end Engine

end MarketData
