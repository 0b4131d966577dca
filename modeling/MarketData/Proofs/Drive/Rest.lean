import Mathlib.Algebra.Order.BigOperators.Group.List
import Mathlib.Algebra.Order.Ring.Nat
import Mathlib.Data.List.Induction
import MarketData.Proofs.Drive.Places

/-! How the loop comes to rest. No run has more attempts than `Drive.turns` allows
(`Books.length_le`), so nothing is in flight in the end; then nothing waits either
(`Reaches.queue_of_rest`), and every handle is finished. -/

namespace MarketData.Drive

variable {policy : Policy} {maxConnections : Nat} {handles : List Handle} {seen : History}
  {d : Drive}

/-! ## Nothing waits while there is room -/

theorem refill_queue_of_rest (h : (d.refill maxConnections).active = []) :
    (d.refill maxConnections).queue = [] := by
  simp only [refill, List.append_eq_nil_iff, List.map_eq_nil_iff, List.take_eq_nil_iff] at h ⊢
  obtain ⟨ha, hroom | hq⟩ := h
  · have hzero : d.queue.length = 0 := by
      unfold room limit? at hroom
      split at hroom
      · exact hroom
      · simp [ha] at hroom; contradiction
    simp [List.length_eq_zero_iff.mp hzero]
  · simp [hq]

theorem Reaches.eq_refill (h : Reaches policy maxConnections handles seen d) :
    ∃ d' : Drive, d = d'.refill maxConnections := by
  cases h with
  | start => exact ⟨_, rfl⟩
  | tick => exact ⟨_, rfl⟩
  | complete t _ hflight => unfold Drive.complete; rw [hflight]; exact ⟨_, rfl⟩

theorem Reaches.queue_of_rest (h : Reaches policy maxConnections handles seen d)
    (ha : d.active = []) : d.queue = [] := by
  obtain ⟨d', rfl⟩ := h.eq_refill
  exact refill_queue_of_rest ha

/-! ## The number of attempts -/

/-- Attempts at distinct URLs add up. -/
theorem length_eq_sum_attemptsAt {urls : List Url} (hnd : urls.Nodup)
    (h : ∀ url, url ∉ urls → attemptsAt url seen = []) :
    seen.length = (urls.map fun url => (attemptsAt url seen).length).sum := by
  induction seen using List.reverseRecOn with
  | nil => simp
  | append_singleton seen e ih =>
    obtain ⟨url, t⟩ := e
    have hmem : url ∈ urls := by
      by_contra hne
      have hnil := h url hne
      rw [attemptsAt_snoc_self] at hnil
      simp at hnil
    have hold : ∀ u, u ∉ urls → attemptsAt u seen = [] := fun u hu => by
      simpa using (List.append_eq_nil_iff.mp (attemptsAt_append u seen _ ▸ h u hu)).1
    have hperm := List.perm_cons_erase hmem
    have hrest : (urls.erase url).map (fun u => (attemptsAt u (seen ++ [(url, t)])).length) =
        (urls.erase url).map fun u => (attemptsAt u seen).length :=
      List.map_congr_left fun u hu => by
        rw [attemptsAt_snoc_of_ne (hnd.mem_erase_iff.mp hu).1]
    have hsum := ih hold
    rw [(hperm.map _).sum_eq, List.map_cons, List.sum_cons] at hsum ⊢
    rw [hrest, attemptsAt_snoc_self, List.length_append, List.length_append, hsum,
      List.length_singleton, List.length_singleton]
    omega

/-- How many of these handles are in flight. -/
def Place.flights : Place → Nat
  | .flying => 1
  | _ => 0

theorem sum_flights : (d.places.map fun p => p.2.flights).sum = d.active.length := by
  simp [places, Place.flights, Function.comp_def]

theorem FitsIn.length_add_flights_le {p : Handle × Place} (h : FitsIn policy seen d p) :
    (attemptsAt p.1.url seen).length + p.2.flights ≤ policy.maxRetries.toNat + 1 := by
  obtain ⟨handle, place⟩ := p
  cases place with
  | queued => simp [h.2.1, Place.flights]
  | flying => exact Nat.succ_le_succ h.2.1.length_le
  | finished =>
    obtain ⟨earlier, last, hts, hearlier, _⟩ := h
    simpa [hts, Place.flights] using hearlier.length_le

/-- There are turns left for each handle in flight. -/
theorem Books.length_le (hurl : (handles.map (·.url)).Nodup) (b : Books policy handles seen d) :
    seen.length + d.active.length ≤ turns policy handles := by
  have hsum : seen.length = (d.places.map fun p => (attemptsAt p.1.url seen).length).sum := by
    rw [length_eq_sum_attemptsAt hurl fun url h => (b.others url h).1,
      ← ((b.perm_map (·.url) fun _ => rfl).map _).sum_eq, handles_map, List.map_map]
    rfl
  have hlen : d.places.length = handles.length := by
    simpa [Drive.handles] using b.conserved.length_eq
  rw [hsum, ← sum_flights, ← List.sum_map_add, turns, ← hlen]
  simpa using List.sum_le_card_nsmul (d.places.map fun p =>
    (attemptsAt p.1.url seen).length + p.2.flights) _ fun n hn => by
      obtain ⟨p, hp, rfl⟩ := List.mem_map.mp hn
      exact (b.fits p hp).length_add_flights_le

/-! ## Finished handles -/

/-- At rest every handle has had its last attempt, and keeps what that attempt brought. -/
theorem Books.finished_of_rest (b : Books policy handles seen d) (hq : d.queue = [])
    (ha : d.active = []) {h : Handle} (hh : h ∈ handles) :
    ∃ p ∈ d.finished, p.1.clear = h.clear ∧ FitsIn policy seen d (p.1, .finished p.2) := by
  have hclear : h.clear ∈ d.handles.map Handle.clear :=
    b.conserved.mem_iff.mpr (List.mem_map_of_mem hh)
  rw [handles_map] at hclear
  obtain ⟨q, hmem, hsame⟩ := List.mem_map.mp hclear
  have hfits := b.fits q hmem
  simp only [places, hq, ha, List.map_nil, List.nil_append, List.mem_map] at hmem
  obtain ⟨p, hp, rfl⟩ := hmem
  exact ⟨p, hp, hsame, hfits⟩

theorem Books.finished_perm (b : Books policy handles seen d) (hq : d.queue = [])
    (ha : d.active = []) :
    (d.finished.map (·.1.clear)).Perm (handles.map Handle.clear) := by
  simpa [handles_map, places, hq, ha, Function.comp_def] using b.conserved

/-- At rest every attempt that was started has ended. -/
theorem Books.requests_of_rest (b : Books policy handles seen d) (hq : d.queue = [])
    (ha : d.active = []) (url : Url) : d.started.count url = (attemptsAt url seen).length := by
  by_cases hmem : url ∈ handles.map (·.url)
  · obtain ⟨h, hh, rfl⟩ := List.mem_map.mp hmem
    obtain ⟨p, _, hsame, earlier, last, hts, _, _, _, _, _, hreq⟩ := b.finished_of_rest hq ha hh
    have hurl : p.1.url = h.url := by simpa using congrArg Handle.url hsame
    simp only [hurl] at hts hreq
    rw [hreq, hts, List.length_append, List.length_singleton]
  · rw [(b.others url hmem).1, (b.others url hmem).2, List.length_nil]

end MarketData.Drive
