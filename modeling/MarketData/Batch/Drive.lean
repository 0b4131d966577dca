import MarketData.Pool

/-! The loop that carries out the transfers of a batch. At most `limit` handles are in flight; the
others wait in a queue. When a transfer comes to its end the policy decides whether the handle is
finished or goes straight back into flight, to repeat its request after a pause.

`Drive.complete` is one turn of the loop, for any transfer in flight and anything it may have
brought. `Drive.run` takes turns until nothing is in flight. -/

namespace MarketData

/-- A transfer in flight: its request goes out once the pause is over. -/
structure Flight where
  handle : Handle
  pause : Milliseconds
deriving DecidableEq, Repr

/-- A retry, as it is reported. -/
structure Retry where
  url : Url
  attempt : Nat
  outcome : Outcome
  pause : Milliseconds
deriving DecidableEq, Repr

structure Drive where
  queue : List Handle
  active : List Flight := []
  finished : List (Handle × Ending) := []
  /-- How many retries each handle has used, by its id. -/
  used : SortedMap Nat Nat := ∅
  /-- The URLs of all attempts, in the order in which they were started. -/
  started : List Url := []
  retried : List Retry := []

namespace Drive

/-- Zero stands for no limit. -/
def limit? (maxConnections : Nat) : Option Nat :=
  if maxConnections = 0 then none else some maxConnections

/-- How many more transfers may start. -/
def room (maxConnections : Nat) (d : Drive) : Nat :=
  (limit? maxConnections).elim d.queue.length (· - d.active.length)

/-- Starts transfers from the front of the queue while there is room. -/
def refill (maxConnections : Nat) (d : Drive) : Drive :=
  let starting := d.queue.take (d.room maxConnections)
  { d with
    queue := d.queue.drop (d.room maxConnections)
    active := d.active ++ starting.map (Flight.mk · 0)
    started := d.started ++ starting.map (·.url) }

def start (maxConnections : Nat) (handles : List Handle) : Drive :=
  refill maxConnections { queue := handles }

def retriesUsed (d : Drive) (h : Handle) : Nat := d.used.getD h.id 0

/-- Finishes a handle, or puts it back into flight. -/
def settle (policy : Policy) (h : Handle) (ending : Ending) (d : Drive) : Drive :=
  let used := d.retriesUsed h
  let outcome := h.outcome ending
  match policy.decide outcome used with
  | .retry =>
    { d with
      active := d.active ++ [⟨h.clear, policy.pause⟩]
      used := d.used.insert h.id (used + 1)
      started := d.started ++ [h.url]
      retried := d.retried ++ [⟨h.url, used + 1, outcome, policy.pause⟩] }
  | .finalize => { d with finished := d.finished ++ [(h, ending)] }

/-- The transfer at `index` among those in flight has ended. -/
def complete (policy : Policy) (maxConnections : Nat) (index : Nat) (t : Transfer) (d : Drive) :
    Drive :=
  match d.active[index]? with
  | none => d
  | some flight =>
    let landed := { d with active := d.active.eraseIdx index }
    refill maxConnections (settle policy (flight.handle.receive t.chunks) t.ending landed)

/-- Takes up to `fuel` turns. `pick` points at the next transfer to end, and `ask` gives what it
brought, given the targets requested so far. -/
def run (policy : Policy) (maxConnections : Nat) (pick : Drive → Nat)
    (ask : List String → Handle → Exchange) :
    (fuel : Nat) → List String → Drive → Drive × List String
  | 0, log, d => (d, log)
  | fuel + 1, log, d =>
    let index := pick d % d.active.length
    match d.active[index]? with
    | none => (d, log)
    | some flight =>
      let exchange := ask log flight.handle
      run policy maxConnections pick ask fuel (log ++ exchange.targets)
        (d.complete policy maxConnections index exchange.transfer)

/-- Each handle takes one turn, and one more for each retry it may have. -/
def turns (policy : Policy) (handles : List Handle) : Nat :=
  handles.length * (policy.maxRetries.toNat + 1)

end Drive

end MarketData
