import MarketData.Distinct
import MarketData.Transport.Network

/-! Handles and the pool that keeps them between batches. A handle serves one URL at a time and
gathers the body of its response. `Pool.acquire` gives each URL of a batch the idle handle bound to
it, else any other idle handle, else a new one; `Pool.release` takes handles back, empty and filed
under their URL. -/

namespace MarketData

structure Handle where
  id : Nat
  url : Url
  config : TransportConfig
  buffer : Bytes := []
deriving DecidableEq, Repr

namespace Handle

def clear (h : Handle) : Handle := { h with buffer := [] }

/-- Serves another URL from now on. -/
def rebind (h : Handle) (url : Url) : Handle := { h with url, buffer := [] }

/-- Appends what arrived. -/
def receive (h : Handle) (chunks : List Bytes) : Handle :=
  { h with buffer := chunks.foldl (· ++ ·) h.buffer }

def takeBody (h : Handle) : Bytes × Handle := (h.buffer, h.clear)

/-- How a retry policy sees the end of a transfer. -/
def outcome (h : Handle) : Ending → Outcome
  | .done => .received h.buffer.isEmpty
  | .failed fault => fault.status?.elim .transportError .httpError

end Handle

/-- The idle handles of a thread, by URL, and how many it ever created. -/
structure Pool where
  idle : SortedMap Url Handle
  created : Nat

/-- The handles of a batch by the way they were got, and the URLs that got none. -/
structure Acquired where
  bound : List Handle := []
  rebound : List Handle := []
  fresh : List Handle := []
  refused : List (Url × TransportFault) := []

/-- In the order in which they were handed out. -/
def Acquired.handles (a : Acquired) : List Handle := a.bound ++ a.rebound ++ a.fresh

namespace Pool

def empty : Pool := ⟨∅, 0⟩

/-- Takes out the idle handles bound to the given URLs; the URLs without one come second. -/
def takeBound (pool : Pool) : List Url → (List Handle × List Url) × Pool
  | [] => (([], []), pool)
  | url :: rest =>
    match pool.idle.get? url with
    | some h =>
      let ((handles, others), pool) := takeBound { pool with idle := pool.idle.erase url } rest
      ((h :: handles, others), pool)
    | none =>
      let ((handles, others), pool) := takeBound pool rest
      ((handles, url :: others), pool)

/-- Takes out the idle handle that `pick` points at. -/
def takeAny (pick : Pool → Nat) (pool : Pool) : Option (Handle × Pool) :=
  match pool.idle.entries[pick pool % pool.idle.size]? with
  | some (url, h) => some (h, { pool with idle := pool.idle.erase url })
  | none => none

/-- Gives each URL any idle handle, or a new one unless `refuse` says why there can be none. -/
def takeOthers (pick : Pool → Nat) (refuse : Url → Option TransportFault)
    (config : TransportConfig) (pool : Pool) (acquired : Acquired) :
    List Url → Acquired × Pool
  | [] => (acquired, pool)
  | url :: rest =>
    match pool.takeAny pick with
    | some (h, pool) =>
      takeOthers pick refuse config pool
        { acquired with rebound := acquired.rebound ++ [h.rebind url] } rest
    | none =>
      match refuse url with
      | some fault =>
        takeOthers pick refuse config pool
          { acquired with refused := acquired.refused ++ [(url, fault)] } rest
      | none =>
        let h : Handle := { id := pool.created, url, config }
        takeOthers pick refuse config { pool with created := pool.created + 1 }
          { acquired with fresh := acquired.fresh ++ [h] } rest

def acquire (pick : Pool → Nat) (refuse : Url → Option TransportFault)
    (config : TransportConfig) (urls : UrlSet) (pool : Pool) : Acquired × Pool :=
  let ((bound, others), pool) := pool.takeBound urls.items
  takeOthers pick refuse config pool { bound } others

def release (pool : Pool) (handles : List Handle) : Pool :=
  { pool with idle := handles.foldl (fun idle h => idle.insert h.url h.clear) pool.idle }

end Pool

end MarketData
