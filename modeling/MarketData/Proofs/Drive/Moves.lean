import Mathlib.Data.List.Perm.Basic
import MarketData.Proofs.Attempts
import MarketData.Batch.Drive

/-! The states in which the loop over a list of handles may wait (`Drive.Reaches`), for every order
of completions and whatever each transfer brings, and the moves that lead there. A turn of the loop
is one handle that comes back from flight and some that are started; each of these is a `Move`, in
which a single handle changes its place. What every move keeps holds in every reachable state
(`Reaches.invariant`). -/

namespace MarketData.Drive

/-- The attempts that have ended: the URL of each and what it brought, in this order. -/
abbrev History := List (Url × Transfer)

/-- What the attempts at one URL brought. -/
def attemptsAt (url : Url) (seen : History) : List Transfer :=
  (seen.filter (·.1 = url)).map (·.2)

@[simp] theorem attemptsAt_nil (url : Url) : attemptsAt url [] = [] := rfl

theorem mem_attemptsAt {url : Url} {seen : History} {t : Transfer} :
    t ∈ attemptsAt url seen ↔ (url, t) ∈ seen := by
  simp [attemptsAt]

@[simp] theorem attemptsAt_append (url : Url) (seen seen' : History) :
    attemptsAt url (seen ++ seen') = attemptsAt url seen ++ attemptsAt url seen' := by
  simp [attemptsAt]

theorem attemptsAt_snoc_self (url : Url) (seen : History) (t : Transfer) :
    attemptsAt url (seen ++ [(url, t)]) = attemptsAt url seen ++ [t] := by
  simp [attemptsAt]

theorem attemptsAt_snoc_of_ne {url url' : Url} (h : url ≠ url') (seen : History) (t : Transfer) :
    attemptsAt url (seen ++ [(url', t)]) = attemptsAt url seen := by
  simp [attemptsAt, h.symm]

/-- The loop over `handles` may wait in this state after these attempts. An idle tick ends no
transfer; it lets the loop look for room once more. -/
inductive Reaches (policy : Policy) (maxConnections : Nat) (handles : List Handle) :
    History → Drive → Prop
  | start : Reaches policy maxConnections handles [] (Drive.start maxConnections handles)
  | tick : Reaches policy maxConnections handles seen d →
    Reaches policy maxConnections handles seen (d.refill maxConnections)
  | complete (t : Transfer) : Reaches policy maxConnections handles seen d →
    d.active[index]? = some flight →
    Reaches policy maxConnections handles (seen ++ [(flight.handle.url, t)])
      (d.complete policy maxConnections index t)

/-! ## Moves -/

/-- A handle changes its place: it is started, goes back into flight after an attempt, or is
finished. -/
inductive Move (policy : Policy) (seen : History) (d : Drive) : History → Drive → Prop
  | launch {h rest} : d.queue = h :: rest →
    Move policy seen d seen
      { d with
        queue := rest
        active := d.active ++ [⟨h, 0⟩]
        started := d.started ++ [h.url] }
  | retry {before flight after} (t : Transfer) : d.active = before ++ flight :: after →
    policy.decide ((flight.handle.receive t.chunks).outcome t.ending)
      (d.retriesUsed flight.handle) = .retry →
    Move policy seen d (seen ++ [(flight.handle.url, t)])
      { d with
        active := before ++ after ++ [⟨flight.handle.clear, policy.pause⟩]
        used := d.used.insert flight.handle.id (d.retriesUsed flight.handle + 1)
        started := d.started ++ [flight.handle.url]
        retried := d.retried ++ [⟨flight.handle.url, d.retriesUsed flight.handle + 1,
          (flight.handle.receive t.chunks).outcome t.ending, policy.pause⟩] }
  | finish {before flight after} (t : Transfer) : d.active = before ++ flight :: after →
    policy.decide ((flight.handle.receive t.chunks).outcome t.ending)
      (d.retriesUsed flight.handle) = .finalize →
    Move policy seen d (seen ++ [(flight.handle.url, t)])
      { d with
        active := before ++ after
        finished := d.finished ++ [(flight.handle.receive t.chunks, t.ending)] }

theorem split_of_getElem? {α : Type*} {l : List α} {index : Nat} {a : α}
    (h : l[index]? = some a) : l = l.take index ++ a :: l.drop (index + 1) := by
  obtain ⟨hlt, hget⟩ := List.getElem?_eq_some_iff.mp h
  rw [← hget, List.getElem_cons_drop, List.take_append_drop]

/-- A turn of the loop is the move of the handle that came back, which takes nothing from the queue
and no further place in flight, and a look for room. -/
theorem complete_eq_refill (policy : Policy) (maxConnections : Nat) (seen : History) {d : Drive}
    {index : Nat} {flight : Flight} (hflight : d.active[index]? = some flight) (t : Transfer) :
    ∃ d', Move policy seen d (seen ++ [(flight.handle.url, t)]) d' ∧ d'.queue = d.queue ∧
      d'.active.length ≤ d.active.length ∧
      d.complete policy maxConnections index t = d'.refill maxConnections := by
  have hsplit := split_of_getElem? hflight
  have hlength := congrArg List.length hsplit
  unfold complete
  rw [hflight]
  simp only
  rw [List.eraseIdx_eq_take_drop_succ]
  unfold settle
  simp only [retriesUsed, Handle.receive_id, Handle.receive_url, Handle.receive_clear]
  split
  · refine ⟨_, .retry t hsplit ‹_›, rfl, ?_, rfl⟩
    simp only [List.length_append, List.length_cons, List.length_nil] at hlength ⊢
    omega
  · refine ⟨_, .finish t hsplit ‹_›, rfl, ?_, rfl⟩
    simp only [List.length_append, List.length_cons] at hlength ⊢
    omega

section Invariants

variable {policy : Policy} {maxConnections : Nat} {P : History → Drive → Prop}
  (hmove : ∀ {seen d seen' d'}, Move policy seen d seen' d' → P seen d → P seen' d')
include hmove

/-- Starting several handles is starting them one by one. -/
theorem launches_invariant (n : Nat) {seen : History} {d : Drive} (h : P seen d) :
    P seen { d with
      queue := d.queue.drop n
      active := d.active ++ (d.queue.take n).map (Flight.mk · 0)
      started := d.started ++ (d.queue.take n).map (·.url) } := by
  induction n generalizing d with
  | zero => simpa using h
  | succ n ih =>
    cases hq : d.queue with
    | nil => simpa [hq] using ih h
    | cons first rest => simpa [hq] using ih (hmove (.launch hq) h)

theorem refill_invariant {seen : History} {d : Drive} (h : P seen d) :
    P seen (d.refill maxConnections) := launches_invariant hmove _ h

theorem complete_invariant {seen : History} {d : Drive} {index : Nat} {flight : Flight}
    (hflight : d.active[index]? = some flight) (t : Transfer) (h : P seen d) :
    P (seen ++ [(flight.handle.url, t)]) (d.complete policy maxConnections index t) := by
  obtain ⟨d', m, -, -, hturn⟩ := complete_eq_refill policy maxConnections seen hflight t
  rw [hturn]
  exact refill_invariant hmove (hmove m h)

/-- What holds before the first move and is kept by every move holds in every reachable state. -/
theorem Reaches.invariant {handles : List Handle} {seen : History} {d : Drive}
    (hstart : P [] { queue := handles }) (h : Reaches policy maxConnections handles seen d) :
    P seen d := by
  induction h with
  | start => exact refill_invariant hmove hstart
  | tick _ ih => exact refill_invariant hmove ih
  | complete t _ hflight ih => exact complete_invariant hmove hflight t ih

end Invariants

end MarketData.Drive
