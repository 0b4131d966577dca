import Mathlib.Data.ENat.Lattice
import Mathlib.Data.Finset.Card
import MarketData.Proofs.Drive.Moves

/-! The slots of the loop. Wherever it waits it has as many transfers in flight as the cap and the
queue allow (`Reaches.filled`). A handle that was started stays in flight until it is finished,
through its retries and their pauses (`Launched`), and handles are started in the order in which
they were given. With a single slot the attempts at a URL therefore follow one another
(`Serial`). -/

namespace MarketData

/-- Between two places where the same thing stands, nothing else does. -/
def Contiguous {α : Type*} (l : List α) : Prop :=
  ∀ a before between after, l = before ++ a :: (between ++ a :: after) → ∀ b ∈ between, b = a

/-- A list stays contiguous if something new is added, or its last element once more. -/
theorem Contiguous.snoc {α : Type*} {l : List α} {x : α} (h : Contiguous l)
    (hx : x ∉ l ∨ l.getLast? = some x) : Contiguous (l ++ [x]) := by
  intro a before between after heq b hb
  rcases List.eq_nil_or_concat' after with rfl | ⟨after, y, rfl⟩
  -- The new element is the second of the two.
  · have hsplit : l ++ [x] = (before ++ a :: between) ++ [a] := by rw [heq]; simp
    obtain ⟨rfl, rfl⟩ := List.append_singleton_inj.mp hsplit
    rcases hx with hnew | hlast
    · simp at hnew
    · rcases List.eq_nil_or_concat' between with rfl | ⟨between, y, rfl⟩
      · contradiction
      · rw [← List.cons_append, ← List.append_assoc, List.getLast?_concat] at hlast
        cases hlast
        rcases List.mem_append.mp hb with hb | hb
        · exact h x before between [] rfl b hb
        · exact List.mem_singleton.mp hb
  · have hsplit : l ++ [x] = (before ++ a :: (between ++ a :: after)) ++ [y] := by rw [heq]; simp
    obtain ⟨rfl, -⟩ := List.append_singleton_inj.mp hsplit
    exact h a before between after rfl b hb

theorem eraseDups_of_nodup {α : Type*} [BEq α] [LawfulBEq α] {l : List α} (h : l.Nodup) :
    l.eraseDups = l := by
  induction l with
  | nil => rfl
  | cons a l ih =>
    obtain ⟨ha, hl⟩ := List.nodup_cons.mp h
    have hkeep : l.filter (fun b => !b == a) = l := by
      rw [List.filter_eq_self]
      intro b hb
      have hne : b ≠ a := by
        rintro rfl
        exact ha hb
      simpa using hne
    rw [List.eraseDups_cons, hkeep, ih hl]

namespace Drive

/-- How many transfers may be in flight at once. -/
def slots (maxConnections : Nat) : ℕ∞ := (limit? maxConnections).elim ⊤ (↑)

variable {policy : Policy} {maxConnections : Nat} {handles : List Handle} {seen seen' : History}
  {d d' : Drive}

/-! ## No slot is idle while a handle waits -/

/-- Looking for room fills the slots, unless the queue runs out before. -/
theorem refill_active_length (h : (d.active.length : ℕ∞) ≤ slots maxConnections) :
    ((d.refill maxConnections).active.length : ℕ∞) =
      min (slots maxConnections) (d.active.length + d.queue.length) := by
  unfold slots limit? at *
  by_cases hzero : maxConnections = 0
  · simp [refill, room, limit?, hzero]
  · simp only [hzero, if_false, Option.elim_some] at h ⊢
    have hle : d.active.length ≤ maxConnections := by exact_mod_cast h
    have hlength : (d.refill maxConnections).active.length =
        min maxConnections (d.active.length + d.queue.length) := by
      simp only [refill, room, limit?, hzero, if_false, Option.elim_some, List.length_append,
        List.length_map, List.length_take]
      omega
    rw [hlength]
    exact_mod_cast rfl

/-- Without room, or with nothing that waits, the look for room changes nothing. -/
theorem refill_eq_self (h : d.room maxConnections = 0 ∨ d.queue = []) :
    d.refill maxConnections = d := by
  cases d
  rcases h with h | h
  · simp [refill, h]
  · simp_all [refill]

theorem refill_length : (d.refill maxConnections).active.length +
    (d.refill maxConnections).queue.length = d.active.length + d.queue.length := by
  simp only [refill, List.length_append, List.length_map, List.length_take, List.length_drop]
  omega

theorem refill_filled (h : (d.active.length : ℕ∞) ≤ slots maxConnections) :
    ((d.refill maxConnections).active.length : ℕ∞) = min (slots maxConnections)
      ((d.refill maxConnections).active.length + (d.refill maxConnections).queue.length) := by
  have hlength : ((d.refill maxConnections).active.length : ℕ∞) +
      (d.refill maxConnections).queue.length = d.active.length + d.queue.length := by
    exact_mod_cast refill_length
  rw [hlength]
  exact refill_active_length h

/-- The cap is kept, and as many transfers are in flight as it and the queue allow. -/
theorem Reaches.filled (h : Reaches policy maxConnections handles seen d) :
    (d.active.length : ℕ∞) = min (slots maxConnections) (d.active.length + d.queue.length) := by
  induction h with
  | start => exact refill_filled (by simp)
  | tick _ ih => exact refill_filled (ih ▸ min_le_left _ _)
  | @complete _ d _ _ t _ hflight ih =>
    obtain ⟨d', -, -, hle, hturn⟩ := complete_eq_refill policy maxConnections [] hflight t
    rw [hturn]
    have hbefore : (d.active.length : ℕ∞) ≤ slots maxConnections := ih ▸ min_le_left _ _
    have hafter : (d'.active.length : ℕ∞) ≤ d.active.length := by exact_mod_cast hle
    exact refill_filled (hafter.trans hbefore)

/-! ## What was started is in flight or finished -/

/-- These handles were started, and no others: they are the first of those given, their URLs were
first requested in this order, and each of them is in flight or finished. -/
structure Launched (handles : List Handle) (d : Drive) (launched : List Handle) : Prop where
  handed : handles = launched ++ d.queue
  requested : d.started.eraseDups = (launched.map (·.url)).eraseDups
  held : (launched.map Handle.clear).Perm
    (d.active.map (·.handle.clear) ++ d.finished.map (·.1.clear))

namespace Launched

variable {launched : List Handle}

theorem mem_started (l : Launched handles d launched) {url : Url} :
    url ∈ d.started ↔ url ∈ launched.map (·.url) := by
  rw [← List.mem_eraseDups, l.requested, List.mem_eraseDups]

theorem urls_perm (l : Launched handles d launched) : (launched.map (·.url)).Perm
    (d.active.map (·.handle.url) ++ d.finished.map (·.1.url)) := by
  have hperm := l.held.map (·.url)
  simpa [Function.comp_def] using hperm

theorem mem_started_iff (l : Launched handles d launched) {url : Url} : url ∈ d.started ↔
    url ∈ d.active.map (·.handle.url) ∨ url ∈ d.finished.map (·.1.url) := by
  rw [l.mem_started, l.urls_perm.mem_iff, List.mem_append]

/-- A URL that waits was not requested yet. -/
theorem not_mem_started (l : Launched handles d launched) (hurl : (handles.map (·.url)).Nodup)
    {h : Handle} {rest : List Handle} (hq : d.queue = h :: rest) : h.url ∉ d.started := by
  rw [l.handed, hq, List.map_append, List.map_cons, List.nodup_append] at hurl
  intro hmem
  exact hurl.2.2 _ (l.mem_started.mp hmem) _ List.mem_cons_self rfl

end Launched

theorem Launched.start : Launched handles { queue := handles } [] where
  handed := rfl
  requested := rfl
  held := .rfl

/-- Every move keeps what was started: one more handle, or one that changes its place. -/
theorem Move.launched (m : Move policy seen d seen' d')
    (h : ∃ launched, Launched handles d launched) : ∃ launched, Launched handles d' launched := by
  obtain ⟨launched, l⟩ := h
  cases m with
  | @launch first rest hq =>
    refine ⟨launched ++ [first], ?_, ?_, ?_⟩
    · rw [l.handed, hq]
      simp
    · have hsame : [first.url].removeAll d.started =
          [first.url].removeAll (launched.map (·.url)) := by
        simp only [List.removeAll, List.elem_eq_mem, l.mem_started]
      simp only [List.map_append, List.map_cons, List.map_nil, List.eraseDups_append, l.requested,
        hsame]
    · have hheld := l.held.append_right [first.clear]
      simp only [List.map_append, List.map_cons, List.map_nil, List.append_assoc] at hheld ⊢
      exact hheld.trans (List.perm_append_comm.append_left _)
  | @retry before flight after t ha hdecide =>
    have hmem : flight.handle.url ∈ d.started := l.mem_started_iff.mpr (.inl (by simp [ha]))
    refine ⟨launched, l.handed, ?_, ?_⟩
    · have hold : [flight.handle.url].removeAll d.started = [] := by simp [List.removeAll, hmem]
      simp only [List.eraseDups_append, hold, l.requested, List.eraseDups_nil, List.append_nil]
    · refine l.held.trans (List.Perm.append_right _ ?_)
      simp only [ha, List.map_append, List.map_cons, List.map_nil, Handle.clear_clear,
        List.append_assoc]
      exact (List.perm_append_singleton ..).symm.append_left _
  | @finish before flight after t ha hdecide =>
    refine ⟨launched, l.handed, l.requested, l.held.trans ?_⟩
    simp only [ha, List.map_append, List.map_cons, List.map_nil, Handle.receive_clear,
      ← List.append_assoc]
    refine List.Perm.trans ?_ (List.perm_append_singleton ..).symm
    simp only [List.append_assoc, List.cons_append]
    exact List.perm_middle

theorem Reaches.launched (h : Reaches policy maxConnections handles seen d) :
    ∃ launched, Launched handles d launched :=
  h.invariant (fun m => m.launched) ⟨[], .start⟩

/-! ## A single slot -/

/-- With one slot the last request was made for the URL in flight, if there is one. -/
structure Serial (handles : List Handle) (d : Drive) : Prop where
  launched : ∃ launched, Launched handles d launched
  single : d.active.length ≤ 1
  contiguous : Contiguous d.started
  last : ∀ f ∈ d.active, d.started.getLast? = some f.handle.url

/-- A handle is started only when nothing is in flight, and its URL is new. -/
theorem Serial.refill (hurl : (handles.map (·.url)).Nodup) (s : Serial handles d) :
    Serial handles (d.refill 1) := by
  have hroom : d.room 1 = 1 - d.active.length := rfl
  cases hactive : d.active with
  | cons flight rest =>
    have hfull : d.room 1 = 0 := by
      rw [hroom, hactive, List.length_cons]
      omega
    rw [refill_eq_self (.inl hfull)]
    exact s
  | nil =>
    cases hq : d.queue with
    | nil =>
      rw [refill_eq_self (.inr hq)]
      exact s
    | cons first waiting =>
      have hrefill : d.refill 1 = { d with
          queue := waiting
          active := d.active ++ [⟨first, 0⟩]
          started := d.started ++ [first.url] } := by
        rw [Drive.refill, hroom, hactive, hq]
        rfl
      obtain ⟨launched, l⟩ := s.launched
      have hnew : first.url ∉ d.started := l.not_mem_started hurl hq
      have m : Move .never [] d [] _ := .launch hq
      rw [hrefill]
      refine ⟨m.launched s.launched, ?_, ?_, ?_⟩
      · simp [hactive]
      · exact s.contiguous.snoc (.inl hnew)
      · intro f hf
        simp only [hactive, List.nil_append, List.mem_singleton] at hf
        rw [hf, List.getLast?_concat]

/-- The handle in flight repeats its request, or leaves its slot. -/
theorem Serial.move (s : Serial handles d) (m : Move policy seen d seen' d')
    (hqueue : d'.queue = d.queue) : Serial handles d' := by
  have hlaunched := m.launched s.launched
  cases m with
  | launch hq => simp [hq] at hqueue
  | @retry before flight after t ha hdecide =>
    have hsingle := s.single
    rw [ha] at hsingle
    simp only [List.length_append, List.length_cons] at hsingle
    obtain ⟨rfl, rfl⟩ : before = [] ∧ after = [] := by
      rw [← List.length_eq_zero_iff, ← List.length_eq_zero_iff]
      omega
    have hlast := s.last flight (by simp [ha])
    refine ⟨hlaunched, by simp, s.contiguous.snoc (.inr hlast), ?_⟩
    intro f hf
    simp only [List.append_nil, List.nil_append, List.mem_singleton] at hf
    rw [hf, List.getLast?_concat]
    rfl
  | @finish before flight after t ha hdecide =>
    refine ⟨hlaunched, ?_, s.contiguous, ?_⟩
    · have hsingle := s.single
      rw [ha] at hsingle
      simp only [List.length_append, List.length_cons] at hsingle ⊢
      omega
    · intro f hf
      refine s.last f ?_
      rw [ha]
      simp only [List.mem_append, List.mem_cons] at hf ⊢
      tauto

theorem Reaches.serial (hurl : (handles.map (·.url)).Nodup)
    (h : Reaches policy 1 handles seen d) : Serial handles d := by
  induction h with
  | start =>
    refine Serial.refill hurl ⟨⟨[], .start⟩, by simp, ?_, by simp⟩
    intro a before between after heq
    simp at heq
  | tick _ ih => exact ih.refill hurl
  | @complete seen _ _ _ t _ hflight ih =>
    obtain ⟨d', m, hqueue, -, hturn⟩ := complete_eq_refill policy 1 seen hflight t
    rw [hturn]
    exact (ih.move m hqueue).refill hurl

end Drive

open Drive

/-- **Slot discipline.** Wherever the loop waits, the transfers in flight are as many as the cap and
the queue allow. Handles are started in the order in which they were given, and those started are
in flight or finished, so that no more URLs than there are slots are started and not finished. If
the URLs are distinct, a URL is in flight exactly from its first request to its end, the URLs are
first requested in the order of the handles, and with a single slot no other URL is requested
between two attempts at the same. -/
theorem slots_disciplined (policy : Policy) (maxConnections : Nat) {handles : List Handle}
    {seen : History} {d : Drive} (h : Reaches policy maxConnections handles seen d) :
    (d.active.length : ℕ∞) = min (slots maxConnections) (d.active.length + d.queue.length) ∧
    (∃ launched, handles = launched ++ d.queue ∧ (launched.map Handle.clear).Perm
      (d.active.map (·.handle.clear) ++ d.finished.map (·.1.clear))) ∧
    (((d.started.toFinset \ (d.finished.map (·.1.url)).toFinset).card : ℕ) : ℕ∞) ≤
      slots maxConnections ∧
    ((handles.map (·.url)).Nodup →
      (∀ url, url ∈ d.active.map (·.handle.url) ↔
        url ∈ d.started ∧ url ∉ d.finished.map (·.1.url)) ∧
      d.started.eraseDups ++ d.queue.map (·.url) = handles.map (·.url) ∧
      (maxConnections = 1 → Contiguous d.started)) := by
  obtain ⟨launched, l⟩ := h.launched
  have hcap : (d.active.length : ℕ∞) ≤ slots maxConnections := h.filled ▸ min_le_left _ _
  refine ⟨h.filled, ⟨launched, l.handed, l.held⟩, ?_, ?_⟩
  · have hsubset : d.started.toFinset \ (d.finished.map (·.1.url)).toFinset ⊆
        (d.active.map (·.handle.url)).toFinset := by
      intro url hmem
      rw [Finset.mem_sdiff, List.mem_toFinset, List.mem_toFinset, l.mem_started_iff] at hmem
      rw [List.mem_toFinset]
      exact hmem.1.resolve_right hmem.2
    have hcard : (d.started.toFinset \ (d.finished.map (·.1.url)).toFinset).card ≤
        d.active.length := by
      refine (Finset.card_le_card hsubset).trans ((List.toFinset_card_le _).trans ?_)
      rw [List.length_map]
    exact le_trans (by exact_mod_cast hcard) hcap
  · intro hurl
    have hnodup : (launched.map (·.url)).Nodup := by
      rw [l.handed, List.map_append] at hurl
      exact hurl.of_append_left
    have happart := List.nodup_append.mp (l.urls_perm.nodup_iff.mp hnodup)
    refine ⟨fun url => ?_, ?_, ?_⟩
    · rw [l.mem_started_iff]
      constructor
      · intro hactive
        exact ⟨.inl hactive, fun hfinished => happart.2.2 _ hactive _ hfinished rfl⟩
      · rintro ⟨hstarted, hfinished⟩
        exact hstarted.resolve_right hfinished
    · rw [l.requested, eraseDups_of_nodup hnodup, l.handed, List.map_append]
    · rintro rfl
      exact (h.serial hurl).contiguous

/-! One slot for two handles, of which the first brings nothing and is tried again. -/
namespace OneSlot

def handles : List Handle :=
  [{ id := 0, url := ⟨"http://a/"⟩, config := {} }, { id := 1, url := ⟨"http://b/"⟩, config := {} }]

def policy : Policy := { maxRetries := 1, retryEmpty := true, pause := 40 }

def seen : History := [(⟨"http://a/"⟩, ⟨[], .done⟩), (⟨"http://a/"⟩, ⟨[[0x31]], .done⟩)]

/-- The loop once the first handle is finished. -/
def later : Drive :=
  ((start 1 handles).complete policy 1 0 ⟨[], .done⟩).complete policy 1 0 ⟨[[0x31]], .done⟩

theorem reaches_later : Reaches policy 1 handles seen later :=
  have again : Reaches policy 1 handles _ _ := .complete ⟨[], .done⟩ .start
    (show (start 1 handles).active[0]? = some ⟨handles[0], 0⟩ from rfl)
  .complete ⟨[[0x31]], .done⟩ again (show _[0]? = some ⟨handles[0], policy.pause⟩ from rfl)

end OneSlot

theorem slots_disciplined_oneSlot :
    Reaches OneSlot.policy 1 OneSlot.handles OneSlot.seen OneSlot.later ∧
    (OneSlot.handles.map (·.url)).Nodup ∧
    OneSlot.later.started = [⟨"http://a/"⟩, ⟨"http://a/"⟩, ⟨"http://b/"⟩] ∧
    Contiguous OneSlot.later.started := by
  have hurl : (OneSlot.handles.map (·.url)).Nodup := by decide
  obtain ⟨-, -, -, hdistinct⟩ := slots_disciplined OneSlot.policy 1 OneSlot.reaches_later
  obtain ⟨-, -, hserial⟩ := hdistinct hurl
  exact ⟨OneSlot.reaches_later, hurl, rfl, hserial rfl⟩

end MarketData
