import MarketData.Proofs.Drive.Run
import MarketData.Proofs.Drive.Slots

/-! The loop ends, whatever the network does. The attempts that have ended fall into shares, one for
each handle; a handle that is not finished has had no more of them than retries were counted for its
id (`Shares`), and the counters never pass the limit of the policy (`Counted`). So each handle in
flight has an attempt left of those that `Drive.turns` allows (`Reaches.length_le`). Nothing is
assumed of the handles: they may even share ids and URLs. -/

namespace MarketData

namespace Drive

variable {policy : Policy} {maxConnections : Nat} {handles : List Handle} {seen seen' : History}
  {d d' : Drive}

/-! ## Counters -/

/-- No counter is past the limit. -/
def Counted (policy : Policy) (d : Drive) : Prop :=
  ∀ id n, d.used.get? id = some n → n ≤ policy.maxRetries.toNat

theorem Counted.retriesUsed_le (c : Counted policy d) (h : Handle) :
    d.retriesUsed h ≤ policy.maxRetries.toNat := by
  unfold retriesUsed SortedMap.getD
  cases hget : d.used.get? h.id with
  | none => exact Nat.zero_le _
  | some n => exact c h.id n hget

/-- A retry is counted only below the limit. -/
theorem Move.counted (m : Move policy seen d seen' d') (c : Counted policy d) :
    Counted policy d' := by
  cases m with
  | launch => exact c
  | finish => exact c
  | @retry before flight after t ha hdecide =>
    intro id n hget
    rw [SortedMap.get?_insert] at hget
    split at hget
    · obtain ⟨hlt, -⟩ := Policy.decide_eq_retry_iff.mp hdecide
      cases hget
      exact hlt
    · exact c id n hget

theorem Reaches.counted (h : Reaches policy maxConnections handles seen d) : Counted policy d := by
  refine h.invariant (fun m c => m.counted c) ?_
  intro id n hget
  simp at hget

/-- A counter that goes up fits a machine word. -/
theorem toNat_succ_of_retry {o : Outcome} {n : Nat} (h : policy.decide o n = .retry) :
    (UInt32.ofNat n + 1).toNat = n + 1 := by
  obtain ⟨hlt, -⟩ := Policy.decide_eq_retry_iff.mp h
  have hmax := policy.maxRetries.toNat_lt
  rw [UInt32.toNat_add, UInt32.toNat_ofNat']
  simp only [UInt32.reduceToNat]
  omega

/-! ## Shares -/

/-- A handle with its place, and what its attempts have brought. -/
structure Share where
  handle : Handle
  place : Place
  brought : List Transfer

namespace Share

def held (s : Share) : Handle × Place := (s.handle, s.place)

def attempts (s : Share) : History := s.brought.map (s.handle.url, ·)

/-- There are as many attempts as the place and the retries counted allow. -/
def Fair (policy : Policy) (used : Nat) (s : Share) : Prop :=
  match s.place with
  | .queued => s.brought = []
  | .flying => s.brought.length ≤ used
  | .finished _ => 1 ≤ s.brought.length ∧ s.brought.length ≤ policy.maxRetries.toNat + 1

theorem Fair.mono {s : Share} {used used' : Nat} (hle : used ≤ used') (h : s.Fair policy used) :
    s.Fair policy used' := by
  obtain ⟨handle, place, brought⟩ := s
  cases place with
  | queued => exact h
  | flying => exact le_trans h hle
  | finished => exact h

end Share

/-- All attempts seen, shared out to the handles. -/
structure Shares (policy : Policy) (seen : History) (d : Drive) (shares : List Share) : Prop where
  held : (shares.map Share.held).Perm d.places
  attempts : seen.Perm (shares.flatMap Share.attempts)
  fair : ∀ s ∈ shares, s.Fair policy (d.retriesUsed s.handle)

theorem Shares.start : Shares policy [] { queue := handles } (handles.map (⟨·, .queued, []⟩)) where
  held := by
    have hheld : (handles.map (⟨·, .queued, []⟩)).map Share.held =
        handles.map fun h => (h, .queued) := by
      rw [List.map_map]
      rfl
    rw [hheld]
    simp [places]
  attempts := by
    rw [List.flatMap_map]
    simp [Share.attempts]
  fair := by
    intro s hs
    obtain ⟨h, -, rfl⟩ := List.mem_map.mp hs
    rfl

/-- One handle gets another place, after attempts that brought `ts`. -/
theorem Shares.replace {shares : List Share} (σ : Shares policy seen d shares)
    {h : Handle} {place : Place} {rest : List (Handle × Place)} (h' : Handle) (place' : Place)
    (ts : List Transfer)
    (hbefore : d.places.Perm ((h, place) :: rest)) (hafter : d'.places.Perm ((h', place') :: rest))
    (hurl : h'.url = h.url) (hused : ∀ h, d.retriesUsed h ≤ d'.retriesUsed h)
    (hfair : ∀ brought, Share.Fair policy (d.retriesUsed h) ⟨h, place, brought⟩ →
      Share.Fair policy (d'.retriesUsed h') ⟨h', place', brought ++ ts⟩) :
    ∃ shares', Shares policy (seen ++ ts.map (h.url, ·)) d' shares' := by
  have hmem : (h, place) ∈ shares.map Share.held :=
    (σ.held.trans hbefore).mem_iff.mpr List.mem_cons_self
  obtain ⟨⟨_, _, brought⟩, hs, heq⟩ := List.mem_map.mp hmem
  obtain ⟨rfl, rfl⟩ := Prod.mk.inj heq.symm
  obtain ⟨front, back, rfl⟩ := List.append_of_mem hs
  refine ⟨⟨h', place', brought ++ ts⟩ :: (front ++ back), ?_, ?_, ?_⟩
  · have hheld := σ.held.trans hbefore
    rw [List.map_append, List.map_cons] at hheld
    have hrest := (List.perm_middle.symm.trans hheld).cons_inv
    rw [List.map_cons, List.map_append]
    exact (hrest.cons _).trans hafter.symm
  · have hattempts := σ.attempts.append_right (ts.map (h.url, ·))
    refine hattempts.trans ?_
    simp only [List.flatMap_append, List.flatMap_cons, Share.attempts, List.map_append, hurl]
    refine (List.perm_append_comm_assoc ..).append_right _ |>.trans ?_
    simp only [List.append_assoc]
    refine List.Perm.append_left _ ?_
    simp only [← List.append_assoc]
    exact List.perm_append_comm.trans (by simp)
  · intro s hmem'
    rcases List.mem_cons.mp hmem' with rfl | hmem'
    · exact hfair brought (σ.fair _ hs)
    · refine (σ.fair s ?_).mono (hused s.handle)
      simp only [List.mem_append, List.mem_cons] at hmem' ⊢
      tauto

/-- The counters stay below the limit, and the attempts can be shared out. -/
structure Rationed (policy : Policy) (seen : History) (d : Drive) : Prop where
  counted : Counted policy d
  shares : ∃ shares, Shares policy seen d shares

theorem Move.rationed (m : Move policy seen d seen' d') (r : Rationed policy seen d) :
    Rationed policy seen' d' := by
  obtain ⟨c, shares, σ⟩ := r
  refine ⟨m.counted c, ?_⟩
  cases m with
  | @launch first rest hq =>
    rw [← List.append_nil seen]
    refine σ.replace first .flying [] (places_of_queue hq) ?_ rfl (fun _ => le_rfl) ?_
    · exact (places_of_active rfl).trans (by simp [places])
    · intro brought hnone
      obtain rfl : brought = [] := hnone
      exact Nat.zero_le _
  | @retry before flight after t ha hdecide =>
    refine σ.replace flight.handle.clear .flying [t] (places_of_active ha) ?_ rfl ?_ ?_
    · exact (places_of_active rfl).trans (by simp [places])
    · intro h
      by_cases hid : h.id = flight.handle.id
      · simp [retriesUsed, SortedMap.getD, SortedMap.get?_insert, hid]
      · exact (retriesUsed_insert_of_ne hid).ge
    · intro brought hle
      have hused : brought.length ≤ d.retriesUsed flight.handle := hle
      simp only [Share.Fair, List.length_append, List.length_singleton]
      exact (Nat.succ_le_succ hused).trans retriesUsed_insert_self.ge
  | @finish before flight after t ha hdecide =>
    refine σ.replace (flight.handle.receive t.chunks) (.finished t.ending) [t]
      (places_of_active ha) (places_of_finished rfl) (Handle.receive_url ..) (fun _ => le_rfl) ?_
    intro brought hle
    have hused : brought.length ≤ d.retriesUsed flight.handle := hle
    have hmax := c.retriesUsed_le flight.handle
    simp only [Share.Fair, List.length_append, List.length_singleton]
    omega

theorem Reaches.rationed (h : Reaches policy maxConnections handles seen d) :
    Rationed policy seen d := by
  refine h.invariant (fun m => m.rationed) ⟨?_, _, Shares.start⟩
  intro id n hget
  simp at hget

/-! ## The end -/

/-- Whoever is in flight has an attempt left. -/
theorem Share.Fair.length_add_flights_le {s : Share} {used : Nat} (h : s.Fair policy used)
    (hused : used ≤ policy.maxRetries.toNat) :
    s.attempts.length + s.place.flights ≤ policy.maxRetries.toNat + 1 := by
  obtain ⟨handle, place, brought⟩ := s
  rw [attempts, List.length_map]
  cases place with
  | queued =>
    obtain rfl : brought = [] := h
    exact Nat.zero_le _
  | flying => exact Nat.succ_le_succ (le_trans h hused)
  | finished => exact h.2

theorem Reaches.places_length (h : Reaches policy maxConnections handles seen d) :
    d.places.length = handles.length := by
  obtain ⟨launched, l⟩ := h.launched
  have hlength := l.held.length_eq
  rw [l.handed]
  simp only [places, List.length_append, List.length_map] at hlength ⊢
  omega

/-- There are turns left for each handle in flight. -/
theorem Reaches.length_le (h : Reaches policy maxConnections handles seen d) :
    seen.length + d.active.length ≤ turns policy handles := by
  obtain ⟨c, shares, σ⟩ := h.rationed
  have hseen : seen.length = (shares.map fun s => s.attempts.length).sum := by
    rw [σ.attempts.length_eq, List.length_flatMap]
  have hactive : d.active.length = (shares.map fun s => s.place.flights).sum := by
    rw [← sum_flights, ← (σ.held.map fun p => p.2.flights).sum_eq, List.map_map]
    rfl
  have hshares : shares.length = handles.length := by
    rw [← h.places_length, ← σ.held.length_eq, List.length_map]
  rw [hseen, hactive, ← List.sum_map_add, turns, ← hshares]
  have hsum : ∀ n ∈ shares.map (fun s => s.attempts.length + s.place.flights),
      n ≤ policy.maxRetries.toNat + 1 := by
    intro n hn
    obtain ⟨s, hs, rfl⟩ := List.mem_map.mp hn
    exact (σ.fair s hs).length_add_flights_le (c.retriesUsed_le s.handle)
  simpa using List.sum_le_card_nsmul _ _ hsum

/-- Looking for room once more changes nothing. -/
theorem Reaches.refill_eq (h : Reaches policy maxConnections handles seen d) :
    d.refill maxConnections = d := by
  apply refill_eq_self
  have hfilled := h.filled
  unfold slots at hfilled
  unfold room
  cases hlimit : limit? maxConnections with
  | none =>
    have hlength : d.active.length = d.active.length + d.queue.length := by
      rw [hlimit, Option.elim_none, top_inf_eq] at hfilled
      exact_mod_cast hfilled
    right
    rw [← List.length_eq_zero_iff]
    omega
  | some limit =>
    have hlength : d.active.length = min limit (d.active.length + d.queue.length) := by
      rw [hlimit, Option.elim_some, ← Nat.cast_add, ← Nat.mono_cast.map_min]
        at hfilled
      exact_mod_cast hfilled
    rw [Option.elim_some, ← List.length_eq_zero_iff]
    omega

/-- The loop is over: every handle is finished, after at least one and at most as many attempts as
the policy allows. -/
structure Over (policy : Policy) (handles : List Handle) (seen : History) (d : Drive) :
    Prop where
  queue : d.queue = []
  active : d.active = []
  finished : (d.finished.map (·.1.clear)).Perm (handles.map Handle.clear)
  shares : ∃ shares : List (Handle × List Transfer),
    (shares.map (·.1)).Perm (d.finished.map (·.1)) ∧
    seen.Perm (shares.flatMap fun s => s.2.map (s.1.url, ·)) ∧
    ∀ s ∈ shares, 1 ≤ s.2.length ∧ s.2.length ≤ policy.maxRetries.toNat + 1
  /-- Handles that share no URL have the attempts at their URLs. -/
  each : (handles.map (·.url)).Nodup → ∀ h ∈ handles,
    1 ≤ (attemptsAt h.url seen).length ∧
    (attemptsAt h.url seen).length ≤ policy.maxRetries.toNat + 1

theorem attemptsAt_flatMap_of_ne {url : Url} {shares : List Share}
    (h : ∀ s ∈ shares, s.handle.url ≠ url) :
    attemptsAt url (shares.flatMap Share.attempts) = [] := by
  rw [List.eq_nil_iff_forall_not_mem]
  intro t ht
  obtain ⟨s, hs, hmem⟩ := List.mem_flatMap.mp (mem_attemptsAt.mp ht)
  obtain ⟨_, -, heq⟩ := List.mem_map.mp hmem
  exact h s hs (Prod.mk.inj heq).1

/-- If no two handles share a URL, a share is what was seen at the URL of its handle. -/
theorem Shares.length_attemptsAt {shares : List Share} (σ : Shares policy seen d shares)
    (hurl : (shares.map (·.handle.url)).Nodup) {s : Share} (hs : s ∈ shares) :
    (attemptsAt s.handle.url seen).length = s.brought.length := by
  obtain ⟨front, back, rfl⟩ := List.append_of_mem hs
  have hsplit := List.perm_middle.map (fun s : Share => s.handle.url) |>.nodup_iff.mp hurl
  have hne : ∀ s' ∈ front ++ back, s'.handle.url ≠ s.handle.url := by
    intro s' hs' heq
    exact (List.nodup_cons.mp hsplit).1 (List.mem_map.mpr ⟨s', hs', heq⟩)
  have hperm : seen.Perm (s.attempts ++ (front ++ back).flatMap Share.attempts) :=
    σ.attempts.trans (List.perm_middle.flatMap_right _)
  have hown : attemptsAt s.handle.url s.attempts = s.brought := by
    simp [attemptsAt, Share.attempts, List.filter_map, Function.comp_def]
  have hlength := ((hperm.filter (·.1 = s.handle.url)).map (·.2)).length_eq
  rw [← attemptsAt, ← attemptsAt, attemptsAt_append, hown, attemptsAt_flatMap_of_ne hne,
    List.append_nil] at hlength
  exact hlength

theorem Reaches.isOver (h : Reaches policy maxConnections handles seen d)
    (hactive : d.active = []) : Over policy handles seen d := by
  have hqueue := h.queue_of_rest hactive
  obtain ⟨launched, l⟩ := h.launched
  obtain ⟨-, shares, σ⟩ := h.rationed
  have hplaces : d.places = d.finished.map fun p => (p.1, .finished p.2) := by
    simp [places, hqueue, hactive]
  have hheld := hplaces ▸ σ.held
  have hfinished : (d.finished.map (·.1.clear)).Perm (handles.map Handle.clear) := by
    have hperm := l.held
    rw [hactive, List.map_nil, List.nil_append] at hperm
    rw [l.handed, hqueue, List.append_nil]
    exact hperm.symm
  have hhandles : (shares.map (·.handle)).Perm (d.finished.map (·.1)) := by
    have hperm := hheld.map (·.1)
    simpa [Function.comp_def, Share.held] using hperm
  have hfair : ∀ s ∈ shares,
      1 ≤ s.brought.length ∧ s.brought.length ≤ policy.maxRetries.toNat + 1 := by
    intro s hs
    obtain ⟨p, -, hp⟩ := List.mem_map.mp (hheld.mem_iff.mp (List.mem_map_of_mem hs))
    have hfair := σ.fair s hs
    rw [Share.Fair, ← (Prod.mk.inj hp).2] at hfair
    exact hfair
  refine ⟨hqueue, hactive, hfinished, ⟨shares.map fun s => (s.handle, s.brought), ?_, ?_, ?_⟩, ?_⟩
  · rw [List.map_map]
    exact hhandles
  · rw [List.flatMap_map]
    exact σ.attempts
  · intro s' hs'
    obtain ⟨s, hs, rfl⟩ := List.mem_map.mp hs'
    exact hfair s hs
  · intro hurl given hgiven
    have hurls : (shares.map (·.handle.url)).Perm (handles.map (·.url)) := by
      have hshares := hhandles.map (·.url)
      have hgiven := hfinished.map (·.url)
      simp only [List.map_map, Function.comp_def, Handle.clear_url] at hshares hgiven
      exact hshares.trans hgiven
    obtain ⟨s, hs, hsame⟩ := List.mem_map.mp
      (hurls.mem_iff.mpr (List.mem_map_of_mem (f := fun h : Handle => h.url) hgiven))
    have hown := σ.length_attemptsAt (hurls.nodup_iff.mpr hurl) hs
    rw [hsame] at hown
    rw [hown]
    exact hfair s hs

end Drive

open Drive

/-- **Termination.** The loop may take no more turns than the policy allows attempts to its handles,
whichever transfer ends next and whatever it brings, and no matter whether handles share ids or
URLs; idle ticks change nothing, and no counter passes the limit of the policy, so that counting in
machine words is exact. Once nothing is in flight the loop is `Over`, and it gets there. -/
theorem loop_terminates (policy : Policy) (maxConnections : Nat) (handles : List Handle) :
    (∀ seen d, Reaches policy maxConnections handles seen d →
      seen.length ≤ handles.length * (policy.maxRetries.toNat + 1) ∧
      d.refill maxConnections = d ∧
      (∀ id n, d.used.get? id = some n → n ≤ policy.maxRetries.toNat) ∧
      (d.active = [] → Over policy handles seen d)) ∧
    (∀ outcome used, policy.decide outcome used = .retry →
      (UInt32.ofNat used + 1).toNat = used + 1) ∧
    ∀ pick ask log fuel, handles.length * (policy.maxRetries.toNat + 1) ≤ fuel →
      ∃ seen d log', run policy maxConnections pick ask fuel log (start maxConnections handles) =
        (d, log') ∧ Reaches policy maxConnections handles seen d ∧ Over policy handles seen d := by
  refine ⟨?_, ?_, ?_⟩
  · intro seen d h
    have hle := h.length_le
    exact ⟨(Nat.le_add_right ..).trans hle, h.refill_eq, h.counted, h.isOver⟩
  · intro outcome used hretry
    exact toNat_succ_of_retry hretry
  · intro pick ask log fuel hfuel
    generalize hrun : run policy maxConnections pick ask fuel log (start maxConnections handles) = r
    obtain ⟨seen, h, -, hrest⟩ : ∃ seen, Reaches policy maxConnections handles seen r.1 ∧ True ∧
        (r.1.active = [] ∨ seen.length = ([] : History).length + fuel) :=
      hrun ▸ run_reaches (I := fun _ _ => True) (fun _ _ _ => trivial) pick fuel .start trivial
    refine ⟨seen, r.1, r.2, rfl, h, h.isOver ?_⟩
    rcases hrest with hactive | hlength
    · exact hactive
    · have hle : _ ≤ handles.length * (policy.maxRetries.toNat + 1) := h.length_le
      rw [← List.length_eq_zero_iff]
      simp only [List.length_nil] at hlength
      omega

/-! Two handles that share an id, and so a counter, under the policy that retries most. -/
namespace SharedId

def handles : List Handle :=
  [{ id := 0, url := ⟨"http://a/"⟩, config := {} }, { id := 0, url := ⟨"http://b/"⟩, config := {} }]

def policy : Policy := { maxRetries := 4294967295, retryEmpty := true }

def seen : History :=
  [(⟨"http://a/"⟩, ⟨[], .done⟩), (⟨"http://b/"⟩, ⟨[[0x31]], .done⟩),
    (⟨"http://a/"⟩, ⟨[[0x31]], .done⟩)]

def ended : Drive :=
  (((start 0 handles).complete policy 0 0 ⟨[], .done⟩).complete policy 0 0
    ⟨[[0x31]], .done⟩).complete policy 0 0 ⟨[[0x31]], .done⟩

theorem reaches_ended : Reaches policy 0 handles seen ended :=
  have again : Reaches policy 0 handles _ _ := .complete ⟨[], .done⟩ .start
    (show (start 0 handles).active[0]? = some ⟨handles[0], 0⟩ from rfl)
  have other : Reaches policy 0 handles _ _ := .complete ⟨[[0x31]], .done⟩ again
    (show _[0]? = some ⟨handles[1], 0⟩ from rfl)
  .complete ⟨[[0x31]], .done⟩ other (show _[0]? = some ⟨handles[0], 0⟩ from rfl)

end SharedId

theorem loop_terminates_sharedId :
    Over SharedId.policy SharedId.handles SharedId.seen SharedId.ended ∧
    SharedId.ended.used.entries = [(0, 1)] ∧
    (UInt32.ofNat 4294967294 + 1).toNat = 4294967295 ∧
    ∀ pick ask, ∃ seen d log,
      run SharedId.policy 0 pick ask 8589934592 [] (start 0 SharedId.handles) = (d, log) ∧
      Over SharedId.policy SharedId.handles seen d := by
  obtain ⟨hstates, hcounted, hruns⟩ := loop_terminates SharedId.policy 0 SharedId.handles
  obtain ⟨-, -, -, hend⟩ := hstates _ _ SharedId.reaches_ended
  refine ⟨hend rfl, rfl, hcounted (.received true) 4294967294 (by decide), ?_⟩
  intro pick ask
  obtain ⟨seen, d, log, hrun, -, hend'⟩ := hruns pick ask [] 8589934592 (by decide)
  exact ⟨seen, d, log, hrun, hend'⟩

end MarketData
