import Mathlib.Data.List.Induction
import MarketData.Batch.Engine
import MarketData.Proofs.Attempts
import MarketData.Proofs.SortedMap

/-! What a batch records. Every path that makes results records one entry after the other, so the
look-ups of all of them follow from two facts on recording a list: an entry under a URL of its own
stays, and other URLs keep what they had. The roll-up is then either all documents or, if there is
one failure, an error (`Results.toExcept_of_isComplete`, `Results.toExcept_of_failures`). -/

namespace MarketData

namespace Results

variable {α : Type*} {f : α → Url × Entry} {l : List α} {r : Results} {a : α} {url : Url}

theorem ext_get? {r r' : Results} (h : ∀ url, r.entries.get? url = r'.entries.get? url) :
    r = r' := by
  obtain ⟨entries⟩ := r
  obtain ⟨entries'⟩ := r'
  exact congrArg _ (SortedMap.ext_get? h)

theorem entries_foldl_record :
    (l.foldl (fun r a => r.record (f a).1 (f a).2) r).entries =
      l.foldl (fun m a => m.insert (f a).1 (f a).2) r.entries := by
  induction l generalizing r with
  | nil => rfl
  | cons a l ih => exact ih

theorem get?_foldl_record_of_mem (hnd : (l.map fun a => (f a).1).Nodup) (h : a ∈ l) :
    (l.foldl (fun r a => r.record (f a).1 (f a).2) r).entries.get? (f a).1 = some (f a).2 := by
  rw [entries_foldl_record]
  exact SortedMap.get?_foldl_insert_of_mem hnd h

theorem get?_foldl_record_of_not_mem (h : url ∉ l.map fun a => (f a).1) :
    (l.foldl (fun r a => r.record (f a).1 (f a).2) r).entries.get? url = r.entries.get? url := by
  rw [entries_foldl_record]
  exact SortedMap.get?_foldl_insert_of_not_mem h

theorem get?_empty : empty.entries.get? url = none := rfl

theorem get?_allFailed (urls : UrlSet) (e : FetchError) :
    (allFailed urls e).entries.get? url = if url ∈ urls.items then some (.error e) else none := by
  split
  · exact get?_foldl_record_of_mem (f := fun url => (url, .error e))
      (by simpa using urls.nodup) ‹_›
  · exact get?_foldl_record_of_not_mem (f := fun url => (url, .error e)) (by simpa using ‹_›)

/-! ## The roll-up -/

variable {document : Json.Value} {e : FetchError}

theorem get?_eq_some_iff :
    r.get? url = some document ↔ r.entries.get? url = some (.ok document) := by
  unfold get?
  cases r.entries.get? url with
  | none => simp
  | some entry => cases entry <;> simp [Except.toOption]

theorem mem_failures : (url, e) ∈ r.failures ↔ r.entries.get? url = some (.error e) := by
  rw [failures, failuresOf, List.mem_filterMap, ← SortedMap.mem_entries]
  constructor
  · rintro ⟨⟨url', entry⟩, hmem, h⟩
    cases entry with
    | ok => contradiction
    | error => cases h; exact hmem
  · exact fun hmem => ⟨_, hmem, rfl⟩

theorem mem_documents : (url, document) ∈ r.documents ↔ r.get? url = some document := by
  rw [documents, List.mem_filterMap, get?_eq_some_iff, ← SortedMap.mem_entries]
  constructor
  · rintro ⟨⟨url', entry⟩, hmem, h⟩
    cases entry with
    | ok => cases h; exact hmem
    | error => contradiction
  · exact fun hmem => ⟨_, hmem, rfl⟩

theorem documents_sorted (r : Results) : Entries.Sorted r.documents := by
  refine r.entries.sorted.filterMap ?_
  rintro ⟨url, entry⟩ p h
  cases entry with
  | error => contradiction
  | ok => cases h; rfl

theorem failures_sorted (r : Results) : Entries.Sorted r.failures := by
  refine r.entries.sorted.filterMap ?_
  rintro ⟨url, entry⟩ p h
  cases entry with
  | ok => contradiction
  | error => cases h; rfl

theorem isComplete_iff : r.isComplete = true ↔ ∀ url e, r.entries.get? url ≠ some (.error e) := by
  rw [isComplete, List.all_eq_true]
  constructor
  · intro h url e hget
    have hok := h _ (SortedMap.mem_entries.mpr hget)
    contradiction
  · rintro h ⟨url, entry⟩ hmem
    cases entry with
    | ok => rfl
    | error e => exact absurd (SortedMap.mem_entries.mp hmem) (h url e)

/-- The entries in the order of a hash table hold the same failures. -/
theorem failuresOf_handOut_perm (order : HashOrder Url) (r : Results) :
    (failuresOf (order.handOut r.toList)).Perm r.failures :=
  (order.handOut_perm r.entries.sorted).filterMap _

theorem toExcept_of_isComplete (h : r.isComplete = true) (order : HashOrder Url) :
    r.toExcept order = .ok (SortedMap.ofList r.documents) := by
  have hnone : r.failures = [] := List.eq_nil_iff_forall_not_mem.mpr fun p hp =>
    isComplete_iff.mp h _ _ (mem_failures.mp hp)
  have hperm := failuresOf_handOut_perm order r
  rw [hnone, List.perm_nil] at hperm
  exact if_pos (List.isEmpty_iff.mpr hperm)

/-- The failures are told in the order in which the entries are handed out. -/
theorem toExcept_of_failures (h : r.failures ≠ []) (order : HashOrder Url) :
    ∃ failures, failures.Perm r.failures ∧ r.toExcept order = .error ⟨failures, r.size⟩ := by
  have hperm := failuresOf_handOut_perm order r
  refine ⟨_, hperm, if_neg ?_⟩
  rw [List.isEmpty_iff]
  exact fun hnone => h (List.perm_nil.mp (hnone ▸ hperm).symm)

theorem toExcept_of_error (h : r.entries.get? url = some (.error e)) (order : HashOrder Url) :
    ∃ e', r.toExcept order = .error e' := by
  have hfailed : r.failures ≠ [] := List.ne_nil_of_mem (mem_failures.mpr h)
  obtain ⟨failures, -, herror⟩ := toExcept_of_failures hfailed order
  exact ⟨_, herror⟩

theorem ofList_documents_entries (r : Results) :
    (SortedMap.ofList r.documents).entries = r.documents := by
  refine Entries.eq_of_find?_eq (SortedMap.sorted _) r.documents_sorted fun url => ?_
  refine Option.ext fun document => ?_
  rw [Entries.find?_eq_some_iff r.documents_sorted]
  exact SortedMap.get?_ofList_eq_some_iff (Entries.keys_nodup r.documents_sorted)

end Results

namespace Engine

/-- What is recorded for a finished handle, and under which URL. -/
def recorded (p : Handle × Ending) : Url × Entry := (p.1.url, Entry.ofTransfer p.1.buffer p.2)

theorem collect_snoc (results : Results) (finished : List (Handle × Ending))
    (p : Handle × Ending) :
    collect results (finished ++ [p]) =
      ((collect results finished).1.record (recorded p).1 (recorded p).2,
        (collect results finished).2 ++ [p.1.clear]) := by
  rw [collect, List.foldl_append]
  rfl

theorem collect_eq (results : Results) (finished : List (Handle × Ending)) :
    collect results finished =
      (finished.foldl (fun r p => r.record (recorded p).1 (recorded p).2) results,
        finished.map (·.1.clear)) := by
  induction finished using List.reverseRecOn with
  | nil => rfl
  | append_singleton finished p ih =>
    rw [collect_snoc, ih, List.foldl_append, List.map_append]
    rfl

theorem collect_handles (results : Results) (finished : List (Handle × Ending)) :
    (collect results finished).2 = finished.map (·.1.clear) := by
  rw [collect_eq]

theorem get?_collect_of_mem {results : Results} {finished : List (Handle × Ending)}
    {p : Handle × Ending} (hnd : (finished.map (·.1.url)).Nodup) (h : p ∈ finished) :
    (collect results finished).1.entries.get? p.1.url =
      some (Entry.ofTransfer p.1.buffer p.2) := by
  rw [collect_eq]
  exact Results.get?_foldl_record_of_mem (f := recorded) hnd h

theorem get?_collect_of_not_mem {results : Results} {finished : List (Handle × Ending)} {url : Url}
    (h : url ∉ finished.map (·.1.url)) :
    (collect results finished).1.entries.get? url = results.entries.get? url := by
  rw [collect_eq]
  exact Results.get?_foldl_record_of_not_mem (f := recorded) h

end Engine

end MarketData
