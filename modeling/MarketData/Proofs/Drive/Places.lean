import MarketData.Proofs.Drive.Moves
import MarketData.Proofs.SortedMap

/-! The books of the loop. Every handle is in one place, and what the loop holds on it agrees with
the attempts seen at its URL: a queued handle has had none, one in flight has had only attempts that
were to be repeated, and a finished one keeps the body of the last attempt alone. `Books` is kept by
every move because a move concerns one handle, and handles share neither ids nor URLs. -/

namespace MarketData.Drive

/-- Where the loop has a handle. -/
inductive Place
  | queued
  | flying
  | finished (ending : Ending)

/-- All handles of the loop, with their places. -/
def places (d : Drive) : List (Handle × Place) :=
  d.queue.map (·, .queued) ++ d.active.map (fun f => (f.handle, .flying)) ++
    d.finished.map fun p => (p.1, .finished p.2)

def handles (d : Drive) : List Handle := d.places.map (·.1)

/-- The transfers seen at the URL of a handle, the retries counted for the handle and the requests
made for its URL are as its place says. -/
def Fits (policy : Policy) (h : Handle) (ts : List Transfer) (used requests : Nat) : Place → Prop
  | .queued => h.buffer = [] ∧ ts = [] ∧ used = 0 ∧ requests = 0
  | .flying => h.buffer = [] ∧ policy.Insists ts ∧ used = ts.length ∧ requests = ts.length + 1
  | .finished ending => ∃ earlier last, ts = earlier ++ [last] ∧ policy.Insists earlier ∧
    policy.decide last.outcome earlier.length = .finalize ∧
    h.buffer = last.body ∧ ending = last.ending ∧
    used = earlier.length ∧ requests = earlier.length + 1

/-- The place fits what the loop in state `d` holds after the attempts `seen`. -/
def FitsIn (policy : Policy) (seen : History) (d : Drive) (p : Handle × Place) : Prop :=
  Fits policy p.1 (attemptsAt p.1.url seen) (d.retriesUsed p.1) (d.started.count p.1.url) p.2

structure Books (policy : Policy) (handles : List Handle) (seen : History) (d : Drive) :
    Prop where
  /-- No handle is lost or doubled. -/
  conserved : (d.handles.map Handle.clear).Perm (handles.map Handle.clear)
  fits : ∀ p ∈ d.places, FitsIn policy seen d p
  /-- No other URL is asked for. -/
  others : ∀ url, url ∉ handles.map (·.url) →
    attemptsAt url seen = [] ∧ d.started.count url = 0

/-! ## What a move does to the places -/

/-- One handle gets another place, and nothing is noted about other ids and URLs. -/
structure Replaces (policy : Policy) (seen : History) (d : Drive) (seen' : History) (d' : Drive)
    (p p' : Handle × Place) (rest : List (Handle × Place)) : Prop where
  before : d.places.Perm (p :: rest)
  after : d'.places.Perm (p' :: rest)
  same : p'.1.clear = p.1.clear
  used : ∀ h : Handle, h.id ≠ p.1.id → d'.retriesUsed h = d.retriesUsed h
  attempts : ∀ url, url ≠ p.1.url → attemptsAt url seen' = attemptsAt url seen
  requests : ∀ url, url ≠ p.1.url → d'.started.count url = d.started.count url
  fits : FitsIn policy seen d p → FitsIn policy seen' d' p'

section

variable {policy : Policy} {seen seen' : History} {d d' : Drive}

theorem count_snoc_self (url : Url) (urls : List Url) :
    (urls ++ [url]).count url = urls.count url + 1 := by simp

theorem count_snoc_of_ne {url url' : Url} (h : url ≠ url') (urls : List Url) :
    (urls ++ [url']).count url = urls.count url := by simp [h.symm]

theorem retriesUsed_insert_self {h : Handle} {n : Nat} :
    retriesUsed { d with used := d.used.insert h.id n } h = n := by
  simp [retriesUsed, SortedMap.getD, SortedMap.get?_insert]

theorem retriesUsed_insert_of_ne {h h' : Handle} {n : Nat} (hne : h'.id ≠ h.id) :
    retriesUsed { d with used := d.used.insert h.id n } h' = d.retriesUsed h' := by
  simp [retriesUsed, SortedMap.getD, SortedMap.get?_insert, hne]

theorem handles_map {α : Type*} (g : Handle → α) :
    d.handles.map g = d.places.map fun p => g p.1 := by
  simp only [handles, List.map_map, Function.comp_def]

theorem places_of_queue {h : Handle} {rest : List Handle} (hq : d.queue = h :: rest) :
    d.places.Perm ((h, .queued) :: places { d with queue := rest }) := by
  simp [places, hq]

theorem places_of_active {before after : List Flight} {f : Flight}
    (ha : d.active = before ++ f :: after) :
    d.places.Perm ((f.handle, .flying) :: places { d with active := before ++ after }) := by
  simp only [places, ha, List.map_append, List.map_cons, List.append_assoc, List.cons_append]
  exact (List.perm_middle.append_left _).trans List.perm_middle

theorem places_of_finished {done : List (Handle × Ending)} {h : Handle} {ending : Ending}
    (hf : d.finished = done ++ [(h, ending)]) :
    d.places.Perm ((h, .finished ending) :: places { d with finished := done }) := by
  simp only [places, hf, List.map_append, List.map_cons, List.map_nil, ← List.append_assoc]
  exact List.perm_append_singleton ..

theorem Move.replaces (m : Move policy seen d seen' d') :
    ∃ p p' rest, Replaces policy seen d seen' d' p p' rest := by
  cases m with
  | @launch h rest hq =>
    refine ⟨(h, .queued), (h, .flying), places { d with queue := rest },
      { before := places_of_queue hq
        after := (places_of_active rfl).trans (by simp [places])
        same := rfl
        used := fun _ _ => rfl
        attempts := fun _ _ => rfl
        requests := fun _ hne => count_snoc_of_ne hne _
        fits := ?_ }⟩
    rintro ⟨hbuf, hts, hused, hreq⟩
    refine ⟨hbuf, ?_, hused.trans ?_, ?_⟩
    · rw [hts]; exact .nil
    · rw [hts]; rfl
    · rw [hts, count_snoc_self, hreq]; rfl
  | @retry before flight after t ha hdecide =>
    refine ⟨(flight.handle, .flying), (flight.handle.clear, .flying),
      places { d with active := before ++ after },
      { before := places_of_active ha
        after := (places_of_active rfl).trans (by simp [places])
        same := rfl
        used := fun _ hne => retriesUsed_insert_of_ne hne
        attempts := fun _ hne => attemptsAt_snoc_of_ne hne ..
        requests := fun _ hne => count_snoc_of_ne hne _
        fits := ?_ }⟩
    rintro ⟨hbuf, hts, hused, hreq⟩
    rw [Handle.receive_outcome_of_empty hbuf, hused] at hdecide
    refine ⟨rfl, ?_, ?_, ?_⟩
    · simpa only [Handle.clear_url, attemptsAt_snoc_self] using hts.append hdecide
    · simp only [Handle.clear_url, attemptsAt_snoc_self, List.length_append, List.length_singleton]
      rw [← hused]
      exact retriesUsed_insert_self
    · simp only [Handle.clear_url, attemptsAt_snoc_self, count_snoc_self, hreq, List.length_append,
        List.length_singleton]
  | @finish before flight after t ha hdecide =>
    refine ⟨(flight.handle, .flying), (flight.handle.receive t.chunks, .finished t.ending),
      places { d with active := before ++ after },
      { before := places_of_active ha
        after := places_of_finished rfl
        same := rfl
        used := fun _ _ => rfl
        attempts := fun _ hne => attemptsAt_snoc_of_ne hne ..
        requests := fun _ _ => rfl
        fits := ?_ }⟩
    rintro ⟨hbuf, hts, hused, hreq⟩
    rw [Handle.receive_outcome_of_empty hbuf, hused] at hdecide
    exact ⟨attemptsAt flight.handle.url seen, t, attemptsAt_snoc_self .., hts, hdecide,
      Handle.receive_buffer_of_empty hbuf, rfl, hused, hreq⟩

/-! ## The books are kept -/

variable {handles : List Handle}

theorem Books.start (hempty : ∀ h ∈ handles, h.buffer = []) :
    Books policy handles [] { queue := handles } where
  conserved := by simp [handles_map, places, Function.comp_def]
  fits := by
    intro p hp
    simp only [places, List.map_nil, List.append_nil, List.mem_map] at hp
    obtain ⟨h, hh, rfl⟩ := hp
    exact ⟨hempty h hh, rfl, rfl, rfl⟩
  others := fun _ _ => ⟨rfl, rfl⟩

/-- What the books say about handles up to their buffers. -/
theorem Books.perm_map (b : Books policy handles seen d) {α : Type*} (g : Handle → α)
    (hg : ∀ h, g h.clear = g h) : (d.handles.map g).Perm (handles.map g) := by
  have hperm := b.conserved.map g
  simpa only [List.map_map, Function.comp_def, hg] using hperm

theorem Books.mem_url (b : Books policy handles seen d) {p : Handle × Place} (hp : p ∈ d.places) :
    p.1.url ∈ handles.map (·.url) :=
  (b.perm_map (·.url) fun _ => rfl).mem_iff.mp
    (List.mem_map_of_mem (List.mem_map_of_mem hp))

theorem Books.fits_queued (b : Books policy handles seen d) {h : Handle} {rest : List Handle}
    (hq : d.queue = h :: rest) : FitsIn policy seen d (h, .queued) :=
  b.fits _ ((places_of_queue hq).mem_iff.mpr List.mem_cons_self)

theorem Books.fits_flying (b : Books policy handles seen d) {before after : List Flight}
    {flight : Flight} (ha : d.active = before ++ flight :: after) :
    FitsIn policy seen d (flight.handle, .flying) :=
  b.fits _ ((places_of_active ha).mem_iff.mpr List.mem_cons_self)

/-- The key of one handle is not the key of any other. -/
theorem ne_of_nodup_map {p q : Handle × Place} {rest : List (Handle × Place)} {α : Type*}
    {g : Handle → α} (hperm : d.places.Perm (p :: rest)) (hnd : (d.handles.map g).Nodup)
    (hq : q ∈ rest) : g q.1 ≠ g p.1 := by
  have hnd' : ((p :: rest).map fun p => g p.1).Nodup := by
    rw [handles_map] at hnd
    exact (hperm.map _).nodup_iff.mp hnd
  rw [List.map_cons, List.nodup_cons] at hnd'
  exact fun heq => hnd'.1 (heq ▸ List.mem_map_of_mem hq)

theorem Books.move (hid : (handles.map (·.id)).Nodup) (hurl : (handles.map (·.url)).Nodup)
    (m : Move policy seen d seen' d') (b : Books policy handles seen d) :
    Books policy handles seen' d' := by
  obtain ⟨p, p', rest, r⟩ := m.replaces
  have hpurl : p.1.url ∈ handles.map (·.url) := b.mem_url (r.before.mem_iff.mpr List.mem_cons_self)
  refine ⟨?_, fun q hq => ?_, fun url hurl' => ?_⟩
  · refine List.Perm.trans ?_ b.conserved
    have hbefore := r.before.map fun p => p.1.clear
    have hafter := r.after.map fun p => p.1.clear
    rw [List.map_cons] at hbefore hafter
    rw [handles_map, handles_map]
    exact hafter.trans (r.same ▸ hbefore.symm)
  -- The handle that moved fits by its case; the others share neither its id nor its URL, so that
  -- nothing they depend on has changed.
  · rcases List.mem_cons.mp (r.after.mem_iff.mp hq) with rfl | hq
    · exact r.fits (b.fits p (r.before.mem_iff.mpr List.mem_cons_self))
    · have hqid : q.1.id ≠ p.1.id := ne_of_nodup_map r.before
        ((b.perm_map (·.id) fun _ => rfl).nodup_iff.mpr hid) hq
      have hqurl : q.1.url ≠ p.1.url := ne_of_nodup_map r.before
        ((b.perm_map (·.url) fun _ => rfl).nodup_iff.mpr hurl) hq
      have hold := b.fits q (r.before.mem_iff.mpr (List.mem_cons_of_mem _ hq))
      unfold FitsIn at hold ⊢
      rwa [r.used _ hqid, r.attempts _ hqurl, r.requests _ hqurl]
  · have hne : url ≠ p.1.url := fun h => hurl' (h ▸ hpurl)
    rw [r.attempts _ hne, r.requests _ hne]
    exact b.others url hurl'

/-- The books are right in every state in which the loop may wait. -/
theorem Reaches.books {maxConnections : Nat} (hid : (handles.map (·.id)).Nodup)
    (hurl : (handles.map (·.url)).Nodup) (hempty : ∀ h ∈ handles, h.buffer = [])
    (h : Reaches policy maxConnections handles seen d) : Books policy handles seen d :=
  h.invariant (fun m b => b.move hid hurl m) (.start hempty)

end

end MarketData.Drive
