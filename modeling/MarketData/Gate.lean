import MarketData.Batch.Engine

/-! Rate gates. A gate lets one batch through at a time and holds the next one back until the pause
of its policy has passed since the last one ended. Time is counted on a clock that never goes
back. -/

namespace MarketData

structure Gate where
  policy : Policy
  /-- When the last batch ended, or the last wait returned. -/
  lastDispatch : Option Instant := none

namespace Gate

def setPolicy (policy : Policy) (g : Gate) : Gate := { g with policy }

/-- When a dispatch that reaches the gate at `now` may start. -/
def opensAt (g : Gate) (now : Instant) : Instant :=
  match g.lastDispatch with
  | none => now
  | some last => max now (last + g.policy.pause)

/-- The gate after a dispatch that ended at `finished`. -/
def stamp (finished : Instant) (g : Gate) : Gate := { g with lastDispatch := some finished }

/-- Waits for the gate; the dispatch is over as soon as it starts. -/
def wait (now : Instant) (g : Gate) : Policy × Instant × Gate :=
  let start := g.opensAt now
  (g.policy, start, g.stamp start)

/-- Runs `batch` once the gate opens, with the policy of the gate and the time at which it starts;
`batch` gives the time at which it ends. -/
def dispatch {α : Type} (now : Instant) (batch : Policy → Instant → α × Instant) (g : Gate) :
    α × Instant × Gate :=
  let (result, finished) := batch g.policy (g.opensAt now)
  (result, finished, g.stamp finished)

/-- Fetches a set of URLs through the gate. -/
def fetch (env : Environment) (footing : Footing) (urls : UrlSet) (maxConnections : Nat)
    (e : Engine) (now : Instant) (g : Gate) : (BatchRun × Engine) × Instant × Gate :=
  g.dispatch now fun policy start =>
    let (run, e) := e.fetch env footing urls maxConnections policy
    ((run, e), start + env.lasts start run)

/-- Fetches one URL through the gate, one connection at a time. -/
def fetchOne (env : Environment) (footing : Footing) (url : Url) (e : Engine) (now : Instant)
    (g : Gate) : (Option Json.Value × BatchRun × Engine) × Instant × Gate :=
  g.dispatch now fun policy start =>
    let (found, run, e) := e.fetchOne env footing url 1 policy
    ((found, run, e), start + env.lasts start run)

end Gate

/-- How the dispatches of a gate are spread: when the first one started, and the sum of the pauses
that the later ones owed. -/
structure Spacing where
  first : Option Instant := none
  owed : Milliseconds := 0
deriving DecidableEq, Repr

namespace Spacing

/-- Notes a dispatch under a pause of `pause`, which started at `start`. -/
def note (start : Instant) (pause : Milliseconds) (s : Spacing) : Spacing :=
  match s.first with
  | none => { s with first := some start }
  | some _ => { s with owed := s.owed + pause }

/-- All pauses owed so far have passed at `start`. -/
def isKept (start : Instant) (s : Spacing) : Bool :=
  match s.first with
  | none => true
  | some first => first + s.owed ≤ start

end Spacing

end MarketData
