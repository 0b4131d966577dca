import MarketData.SortedMap

/-! Retry policies. `Policy.decide` says whether a finished transfer is tried again, from what it
brought and how many retries the URL has had. -/

namespace MarketData

/-- An HTTP status code. -/
abbrev Status := UInt16

/-- Lengths of time in milliseconds. -/
abbrev Milliseconds := Nat

/-- Readings of a clock, in milliseconds. -/
abbrev Instant := Nat

structure Policy where
  /-- A URL is requested once and then at most this often again. -/
  maxRetries : UInt32 := 0
  /-- The error statuses that are worth another try, in increasing order. -/
  retriedStatuses : SortedMap Status Unit := ∅
  retryEmpty : Bool := false
  /-- The pause before a retry, and between the dispatches of a gate. -/
  pause : Milliseconds := 0
deriving DecidableEq

/-- What one transfer brought. -/
inductive Outcome
  | received (empty : Bool)
  | httpError (status : Status)
  | transportError
deriving DecidableEq, Repr

inductive Decision
  | retry
  | finalize
deriving DecidableEq, Repr

namespace Policy

/-- The policy that never retries. -/
def never : Policy := {}

def retriesStatus (policy : Policy) (status : Status) : Bool :=
  policy.retriedStatuses.contains status

def addStatuses (policy : Policy) (statuses : List Status) : Policy :=
  { policy with
    retriedStatuses :=
      statuses.foldl (fun kept status => kept.insert status ()) policy.retriedStatuses }

/-- Whether the policy calls for another try, as long as any are left. -/
def isRetryable (policy : Policy) : Outcome → Bool
  | .httpError status => policy.retriesStatus status
  | .received empty => empty && policy.retryEmpty
  | .transportError => false

def decide (policy : Policy) (outcome : Outcome) (retriesUsed : Nat) : Decision :=
  if policy.maxRetries.toNat ≤ retriesUsed then .finalize
  else if policy.isRetryable outcome then .retry
  else .finalize

end Policy

end MarketData
