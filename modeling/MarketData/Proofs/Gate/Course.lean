import MarketData.Gate
import MarketData.Proofs.Batch.Custody

/-! The loop of a batch in time. A transfer is in flight from the moment the loop puts it there, its
request goes out once its pause is over, and the loop takes notice of its end at a later reading of
the clock (`Course.Turn`). Whatever the network brings and whenever it does, the loop is in a state
that it may reach under the policy, and all attempts lie between the start of the batch and now
(`Course.Lawful.turn`). -/

namespace MarketData

/-- The handles of a batch for these URLs. -/
structure Lent (urls : List Url) (handles : List Handle) : Prop where
  mem_urls : ∀ h ∈ handles, h.url ∈ urls
  ids_nodup : (handles.map (·.id)).Nodup
  urls_nodup : (handles.map (·.url)).Nodup
  emptied : ∀ h ∈ handles, h.buffer = []

theorem Lent.nil {urls : List Url} : Lent urls [] := ⟨by simp, by simp, by simp, by simp⟩

/-- A pool lends so. -/
theorem Batch.acquired_lent {b : Batch} {e : Engine} (c : e.pool.Custody []) :
    Lent b.urls.items (b.acquired e).handles where
  mem_urls := fun h hmem => by
    refine (b.acquiring c).served.mem_iff.mp ?_
    rw [List.append_nil, List.mem_append]
    exact .inl (List.mem_map_of_mem hmem)
  ids_nodup := (b.acquiring c).custody.ids_nodup
  urls_nodup := (b.acquiring c).custody.urls_nodup
  emptied := (b.acquiring c).emptied

/-- One attempt at a URL. -/
structure Attempt where
  url : Url
  transfer : Transfer
  /-- When the request went out. -/
  sent : Instant
  /-- When the loop took notice of the end. -/
  ended : Instant

structure Course where
  loop : Drive
  /-- Since when each transfer in flight is there. -/
  launched : List Instant
  /-- The attempts that have ended, in this order. -/
  attempts : List Attempt := []

namespace Course

def history (c : Course) : Drive.History := c.attempts.map fun a => (a.url, a.transfer)

/-- The transfers in flight beyond those of `launched` are there since now. -/
def resume (loop : Drive) (launched : List Instant) (attempts : List Attempt) (now : Instant) :
    Course where
  loop
  launched := launched ++ List.replicate (loop.active.length - launched.length) now
  attempts

def start (maxConnections : Nat) (handles : List Handle) (now : Instant) : Course :=
  resume (Drive.start maxConnections handles) [] [] now

/-- A turn of the loop: it looks for room, or a transfer ends that was sent after its pause. -/
inductive Turn (policy : Policy) (maxConnections : Nat) (now : Instant) (c : Course) :
    Course → Prop
  | tick : Turn policy maxConnections now c
    (resume (c.loop.refill maxConnections) c.launched c.attempts now)
  | land (t : Transfer) : c.loop.active[index]? = some flight → c.launched[index]? = some since →
    since + flight.pause ≤ sent → sent ≤ now →
    Turn policy maxConnections now c
      (resume (c.loop.complete policy maxConnections index t) (c.launched.eraseIdx index)
        (c.attempts ++ [⟨flight.handle.url, t, sent, now⟩]) now)

/-- Turns one after the other, as the clock goes on. -/
inductive Turns (policy : Policy) (maxConnections : Nat) (begun : Instant) (c : Course) :
    Instant → Course → Prop
  | refl : Turns policy maxConnections begun c begun c
  | tail : Turns policy maxConnections begun c now c' → now ≤ now' →
    Turn policy maxConnections now' c' c'' → Turns policy maxConnections begun c now' c''

/-- A course under one policy from `begun` to `now`. -/
structure Lawful (policy : Policy) (maxConnections : Nat) (handles : List Handle)
    (begun now : Instant) (c : Course) : Prop where
  reaches : Drive.Reaches policy maxConnections handles c.history c.loop
  launched : ∀ since ∈ c.launched, begun ≤ since
  attempts : ∀ a ∈ c.attempts, begun ≤ a.sent ∧ a.sent ≤ a.ended ∧ a.ended ≤ now

namespace Lawful

variable {policy : Policy} {maxConnections : Nat} {handles : List Handle}
  {begun now now' : Instant} {c c' : Course}

theorem start : Lawful policy maxConnections handles begun begun
    (Course.start maxConnections handles begun) where
  reaches := .start
  launched := fun since hmem => (List.eq_of_mem_replicate hmem).ge
  attempts := by simp [Course.start, resume]

theorem later (h : Lawful policy maxConnections handles begun now c) (hle : now ≤ now') :
    Lawful policy maxConnections handles begun now' c where
  reaches := h.reaches
  launched := h.launched
  attempts := fun a hmem =>
    (h.attempts a hmem).imp_right (And.imp_right fun hended => hended.trans hle)

/-- New transfers in flight are there since now. -/
theorem resume_launched {loop : Drive} {launched : List Instant} {attempts : List Attempt}
    (hle : begun ≤ now) (h : ∀ since ∈ launched, begun ≤ since) :
    ∀ since ∈ (resume loop launched attempts now).launched, begun ≤ since := by
  intro since hmem
  rcases List.mem_append.mp hmem with hmem | hmem
  · exact h since hmem
  · rw [List.eq_of_mem_replicate hmem]
    exact hle

theorem turn (h : Lawful policy maxConnections handles begun now c) (hle : begun ≤ now)
    (hturn : Turn policy maxConnections now c c') :
    Lawful policy maxConnections handles begun now c' := by
  cases hturn with
  | tick => exact ⟨h.reaches.tick, resume_launched hle h.launched, h.attempts⟩
  | @land index flight since sent t hflight hsince hpause hsent =>
    refine ⟨?_, resume_launched hle fun since hmem => ?_, List.forall_mem_append.mpr
      ⟨h.attempts, List.forall_mem_singleton.mpr ⟨?_, hsent, Nat.le_refl now⟩⟩⟩
    · have hcomplete := h.reaches.complete t hflight
      simpa [history, resume] using hcomplete
    · exact h.launched since (List.mem_of_mem_eraseIdx hmem)
    · have hbegun := h.launched since (List.mem_of_getElem? hsince)
      exact (hbegun.trans (Nat.le_add_right ..)).trans hpause

end Lawful

end Course

end MarketData
