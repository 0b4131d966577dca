import Mathlib.Logic.Function.Basic
import MarketData.Market.Client
import MarketData.Proofs.Batch.Paths

/-! A process that fetches. Its threads have pools of their own and share the one-time set-up of the
transport, the log of targets and any number of gates. Calls come one after the other, each on some
thread. Every call that fetches is one fetch on the engine of its thread (`Process.step_cases`),
so what the clock and the gates had on it shows in nothing it tells (`Process.Alike.step`). -/

namespace MarketData

/-- A process between two calls. -/
structure Process where
  setup : Setup := .pending
  /-- The pool of each thread. -/
  pools : Nat → Pool := fun _ => .empty
  log : List String := []
  gates : Nat → Gate
  now : Instant := 0

/-- A fetch, with all that it does not decide for itself. -/
structure Fetching where
  env : Environment
  footing : Footing
  urls : UrlSet
  maxConnections : Nat
  policy : Policy

def Fetching.run (f : Fetching) (e : Engine) : BatchRun × Engine :=
  e.fetch f.env f.footing f.urls f.maxConnections f.policy

/-- A call into the transport, or one that reaches it. -/
inductive TransportCall
  /-- Sets the transport up. -/
  | install (env : Environment) (config : TransportConfig)
  | newClient (env : Environment) (keys : Keys) (config : ServiceConfig)
  | fetch (env : Environment) (footing : Footing) (urls : UrlSet) (maxConnections : Nat)
    (policy : Policy)
  | fetchOne (env : Environment) (footing : Footing) (url : Url) (maxConnections : Nat)
    (policy : Policy)
  | gateFetch (gate : Nat) (env : Environment) (footing : Footing) (urls : UrlSet)
    (maxConnections : Nat)
  | gateFetchOne (gate : Nat) (env : Environment) (footing : Footing) (url : Url)

namespace TransportCall

/-- Sets the transport up as it is by default. -/
def init (env : Environment) : TransportCall := install env {}

/-- The fetch that a call makes, if it makes one. -/
def fetching? (gates : Nat → Gate) : TransportCall → Option Fetching
  | install _ _ | newClient _ _ _ => none
  | fetch env footing urls maxConnections policy =>
    some { env, footing, urls, maxConnections, policy }
  | fetchOne env footing url maxConnections policy =>
    some { env, footing, urls := .singleton url, maxConnections, policy }
  | gateFetch gate env footing urls maxConnections =>
    some { env, footing, urls, maxConnections, policy := (gates gate).policy }
  | gateFetchOne gate env footing url =>
    some { env, footing, urls := .singleton url, maxConnections := 1,
           policy := (gates gate).policy }

/-- The configuration that a call would set the transport up with, and what would build a client
from it. Only a fetch of no URL leaves the set-up alone. -/
def setsUp? : TransportCall → Option (ClientBuilder × TransportConfig)
  | install env config => some (env.build, config)
  | fetch env _ urls _ _ | gateFetch _ env _ urls _ =>
    if urls.isEmpty then none else some (env.build, {})
  | newClient env _ _ | fetchOne env _ _ _ _ | gateFetchOne _ env _ _ => some (env.build, {})

end TransportCall

/-- What a call tells. -/
inductive Report
  | installed (outcome : Except FetchError Unit)
  | client (outcome : Except ServiceError Client)
  | fetched (run : BatchRun)
  | document (found : Option Json.Value) (run : BatchRun)

/-- The batch behind a report. -/
def Report.run? : Report → Option BatchRun
  | installed _ | client _ => none
  | fetched run | document _ run => some run

namespace Process

/-- The engine of a thread. -/
def engine (thread : Nat) (p : Process) : Engine :=
  { setup := p.setup, pool := p.pools thread, log := p.log }

/-- The engine of a thread has changed. -/
def keep (thread : Nat) (e : Engine) (p : Process) : Process :=
  { p with setup := e.setup, pools := Function.update p.pools thread e.pool, log := e.log }

/-- A gate has been used. -/
def passed (gate : Nat) (now : Instant) (g : Gate) (p : Process) : Process :=
  { p with gates := Function.update p.gates gate g, now }

def step (thread : Nat) (call : TransportCall) (p : Process) : Report × Process :=
  let e := p.engine thread
  match call with
  | .install env config =>
    let (outcome, e) := e.install env config
    (.installed outcome, p.keep thread e)
  | .newClient env keys config =>
    let (outcome, s) := Client.create env keys config { engine := e }
    (.client outcome, p.keep thread s.engine)
  | .fetch env footing urls maxConnections policy =>
    let (run, e) := e.fetch env footing urls maxConnections policy
    (.fetched run, p.keep thread e)
  | .fetchOne env footing url maxConnections policy =>
    let (found, run, e) := e.fetchOne env footing url maxConnections policy
    (.document found run, p.keep thread e)
  | .gateFetch gate env footing urls maxConnections =>
    let ((run, e), now, g) := (p.gates gate).fetch env footing urls maxConnections e p.now
    (.fetched run, (p.keep thread e).passed gate now g)
  | .gateFetchOne gate env footing url =>
    let ((found, run, e), now, g) := (p.gates gate).fetchOne env footing url e p.now
    (.document found run, (p.keep thread e).passed gate now g)

/-- The process after these calls. -/
def after (p : Process) (calls : List (Nat × TransportCall)) : Process :=
  calls.foldl (fun p call => (p.step call.1 call.2).2) p

/-- What these calls tell, one after the other. -/
def reports (p : Process) : List (Nat × TransportCall) → List Report
  | [] => []
  | call :: calls => (p.step call.1 call.2).1 :: (p.step call.1 call.2).2.reports calls

theorem after_snoc (p : Process) (calls : List (Nat × TransportCall))
    (call : Nat × TransportCall) :
    p.after (calls ++ [call]) = ((p.after calls).step call.1 call.2).2 := by
  simp [after]

/-! ## Clocks and gates -/

/-- The processes differ in the clock and in what the gates have noted of it only. -/
structure Alike (p p' : Process) : Prop where
  setup : p.setup = p'.setup
  pools : p.pools = p'.pools
  log : p.log = p'.log
  policy : ∀ gate, (p.gates gate).policy = (p'.gates gate).policy

variable {p p' : Process} {thread : Nat} {call : TransportCall}

theorem Alike.refl (p : Process) : Alike p p := ⟨rfl, rfl, rfl, fun _ => rfl⟩

theorem Alike.symm (h : Alike p p') : Alike p' p :=
  ⟨h.setup.symm, h.pools.symm, h.log.symm, fun gate => (h.policy gate).symm⟩

theorem Alike.trans {p'' : Process} (h : Alike p p') (h' : Alike p' p'') : Alike p p'' :=
  ⟨h.setup.trans h'.setup, h.pools.trans h'.pools, h.log.trans h'.log,
    fun gate => (h.policy gate).trans (h'.policy gate)⟩

theorem Alike.engine (h : Alike p p') (thread : Nat) : p.engine thread = p'.engine thread := by
  rw [Process.engine, Process.engine, h.setup, h.pools, h.log]

theorem Alike.keep (h : Alike p p') (thread : Nat) (e : Engine) :
    Alike (p.keep thread e) (p'.keep thread e) :=
  ⟨rfl, by rw [Process.keep, Process.keep, h.pools], rfl, h.policy⟩

/-- A gate that has been used has its policy still. -/
theorem alike_passed {gate : Nat} {now : Instant} {g : Gate}
    (h : g.policy = (p.gates gate).policy) : Alike p (p.passed gate now g) where
  setup := rfl
  pools := rfl
  log := rfl
  policy := by
    intro other
    by_cases hother : other = gate
    · simp [passed, hother, h]
    · simp [passed, hother]

theorem Alike.passed (h : Alike p p') {gate : Nat} {now now' : Instant} {g g' : Gate}
    (hg : g.policy = (p.gates gate).policy) (hg' : g'.policy = (p'.gates gate).policy) :
    Alike (p.passed gate now g) (p'.passed gate now' g') :=
  (alike_passed hg).symm.trans (h.trans (alike_passed hg'))

/-- An engine that is as it was. -/
theorem keep_engine (thread : Nat) (p : Process) : p.keep thread (p.engine thread) = p := by
  rw [keep, engine, Function.update_eq_self]

/-- A call changes the engine of its thread: it tries the set-up alone, or makes its fetch. -/
theorem step_cases (thread : Nat) (call : TransportCall) (p : Process) :
    (∃ env config, call.setsUp? = some (env.build, config) ∧ call.fetching? p.gates = none ∧
      Alike (p.keep thread ((p.engine thread).install env config).2) (p.step thread call).2) ∨
    ∃ f, call.fetching? p.gates = some f ∧
      call.setsUp? = (if f.urls.isEmpty then none else some (f.env.build, {})) ∧
      (p.step thread call).1.run? = some (f.run (p.engine thread)).1 ∧
      Alike (p.keep thread (f.run (p.engine thread)).2) (p.step thread call).2 := by
  cases call with
  | install env config => exact .inl ⟨env, config, rfl, rfl, .refl _⟩
  | newClient env keys config => exact .inl ⟨env, {}, rfl, rfl, .refl _⟩
  | fetch env footing urls maxConnections policy => exact .inr ⟨_, rfl, rfl, rfl, .refl _⟩
  | fetchOne env footing url maxConnections policy => exact .inr ⟨_, rfl, rfl, rfl, .refl _⟩
  | gateFetch gate env footing urls maxConnections =>
    exact .inr ⟨_, rfl, rfl, rfl, alike_passed rfl⟩
  | gateFetchOne gate env footing url => exact .inr ⟨_, rfl, rfl, rfl, alike_passed rfl⟩

/-- A call for one document tells what the results have for its URL. -/
theorem step_document {found : Option Json.Value} {run : BatchRun}
    (h : (p.step thread call).1 = .document found run) :
    ∃ f url, call.fetching? p.gates = some f ∧ f.urls = .singleton url ∧
      found = (run.results.entries.get? url).bind (·.toOption) := by
  cases call with
  | install | newClient | fetch | gateFetch => cases h
  | fetchOne env footing url maxConnections policy =>
    cases h
    exact ⟨_, url, rfl, rfl, rfl⟩
  | gateFetchOne gate env footing url =>
    cases h
    exact ⟨_, url, rfl, rfl, rfl⟩

/-- What a call tells and how it leaves the engine of its thread depends on that engine and on the
policies of the gates. -/
theorem Alike.step (h : Alike p p') (thread : Nat) (call : TransportCall) :
    (p.step thread call).1 = (p'.step thread call).1 ∧
      Alike (p.step thread call).2 (p'.step thread call).2 := by
  have hengine := h.engine thread
  cases call with
  | install env config =>
    simp only [Process.step, hengine]
    exact ⟨trivial, h.keep ..⟩
  | newClient env keys config =>
    simp only [Process.step, hengine]
    exact ⟨trivial, h.keep ..⟩
  | fetch env footing urls maxConnections policy =>
    simp only [Process.step, hengine]
    exact ⟨trivial, h.keep ..⟩
  | fetchOne env footing url maxConnections policy =>
    simp only [Process.step, hengine]
    exact ⟨trivial, h.keep ..⟩
  | gateFetch gate env footing urls maxConnections =>
    simp only [Process.step, Gate.fetch, Gate.dispatch, hengine, h.policy gate]
    exact ⟨trivial, (h.keep ..).passed rfl rfl⟩
  | gateFetchOne gate env footing url =>
    simp only [Process.step, Gate.fetchOne, Gate.dispatch, hengine, h.policy gate]
    exact ⟨trivial, (h.keep ..).passed rfl rfl⟩

theorem Alike.reports (h : Alike p p') (calls : List (Nat × TransportCall)) :
    p.reports calls = p'.reports calls := by
  induction calls generalizing p p' with
  | nil => rfl
  | cons call calls ih =>
    obtain ⟨hreport, hnext⟩ := h.step call.1 call.2
    rw [Process.reports, Process.reports, hreport, ih hnext]

end Process

end MarketData
