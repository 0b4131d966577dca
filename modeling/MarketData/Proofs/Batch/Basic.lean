import MarketData.Proofs.Drive.Run
import MarketData.Proofs.Results

/-! Batches as data, and the stages of running one: handles are acquired, the loop drives their
transfers to rest, and what they brought is recorded while they go back to the pool. Everything a
batch does not decide for itself (the network, failures to make a handle, which idle handle is
rebound, which transfer ends next) comes with it. -/

namespace MarketData

structure Batch where
  env : Environment
  config : TransportConfig
  urls : UrlSet
  maxConnections : Nat
  policy : Policy

namespace Batch

/-- The same batch under another configuration. -/
def under (config : TransportConfig) (b : Batch) : Batch := { b with config }

variable (b : Batch) (e : Engine)

def run : BatchRun × Engine := e.runBatch b.env b.config b.urls b.maxConnections b.policy

def acquired : Acquired :=
  (e.pool.acquire b.env.pickIdle (b.env.refuse b.config) b.config b.urls).1

/-- The pool while the transfers are under way. -/
def poolDuring : Pool :=
  (e.pool.acquire b.env.pickIdle (b.env.refuse b.config) b.config b.urls).2

/-- The request for the URL of a handle, after those in `log`. -/
def ask (log : List String) (h : Handle) : Exchange := b.env.network.answer h.config log h.url

/-- The loop at rest, and the log of targets by then. -/
def loop : Drive × List String :=
  Drive.run b.policy b.maxConnections b.env.pickFlight b.ask
    (Drive.turns b.policy (b.acquired e).handles) e.log
    (Drive.start b.maxConnections (b.acquired e).handles)

/-- The results before any transfer: the URLs that got no handle. -/
def refusals : Results :=
  (b.acquired e).refused.foldl (fun r p => r.record p.1 (.error (.transport p.2))) .empty

theorem run_results : (b.run e).1.results =
    (Engine.collect (b.refusals e) (b.loop e).1.finished).1 := rfl

theorem run_started : (b.run e).1.started = (b.loop e).1.started := rfl

theorem run_log : (b.run e).2.log = (b.loop e).2 := rfl

theorem run_pool : (b.run e).2.pool =
    (b.poolDuring e).release ((b.loop e).1.finished.map (·.1.clear)) := by
  rw [← Engine.collect_handles (b.refusals e)]
  rfl

end Batch

/-- The engine after a sequence of batches. -/
def Engine.after (e : Engine) (batches : List Batch) : Engine :=
  batches.foldl (fun e b => (b.run e).2) e

end MarketData
