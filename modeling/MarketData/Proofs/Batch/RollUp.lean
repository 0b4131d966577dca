import MarketData.Proofs.Batch.Paths

/-! Results rolled up. The views of a result map tell one story of each URL (`Results.views`), which
taking entries out leaves as it is for all other URLs (`Results.get?_without`). The roll-up repeats
it: all documents, or each failure once with its cause and the number of entries
(`Results.toExcept_rolledUp`). -/

namespace MarketData

namespace Results

/-- What is left once the entries of these URLs were taken out, one after the other. -/
def without (r : Results) (removed : List Url) : Results :=
  removed.foldl (fun r url => (r.remove url).2) r

/-- One thing is known of a URL: its document, why it has none, or that it was not asked for. -/
inductive Views (r : Results) (url : Url) : Prop
  | document : r.get? url = some document → r.error? url = none → r.contains url = true →
    Views r url
  | failure : r.get? url = none → r.error? url = some cause → r.contains url = true → Views r url
  | absent : r.get? url = none → r.error? url = none → r.contains url = false → Views r url

/-- The documents of all URLs if none has failed, and else each failure once, with the number of
all entries. -/
inductive RolledUp (r : Results) : Except BatchError (SortedMap Url Json.Value) → Prop
  | documents : (∀ url, r.error? url = none) → (∀ url, m.get? url = r.get? url) →
    (∀ url, m.contains url = r.contains url) → RolledUp r (.ok m)
  | failures : e.failures ≠ [] → (e.failures.map (·.1)).Nodup →
    (∀ url cause, (url, cause) ∈ e.failures ↔ r.error? url = some cause) → e.total = r.size →
    RolledUp r (.error e)

variable {r : Results} {removed : List Url} {url : Url} {cause : FetchError}

/-! ## Views -/

theorem error?_eq_some_iff :
    r.error? url = some cause ↔ r.entries.get? url = some (.error cause) := by
  unfold error?
  cases r.entries.get? url with
  | none => simp
  | some entry => cases entry <;> simp

theorem views (r : Results) (url : Url) : r.Views url := by
  cases hentry : r.entries.get? url with
  | none =>
    refine .absent ?_ ?_ ?_
    · rw [get?, hentry]
      rfl
    · rw [error?, hentry]
      rfl
    · rw [contains, SortedMap.contains, hentry]
      rfl
  | some entry =>
    have hcontains : r.contains url = true := by
      rw [contains, SortedMap.contains, hentry]
      rfl
    cases entry with
    | ok document =>
      refine .document (get?_eq_some_iff.mpr hentry) ?_ hcontains
      rw [error?, hentry]
      rfl
    | error cause =>
      refine .failure ?_ (error?_eq_some_iff.mpr hentry) hcontains
      rw [get?, hentry]
      rfl

theorem mem_failures_iff : (url, cause) ∈ r.failures ↔ r.error? url = some cause :=
  mem_failures.trans error?_eq_some_iff.symm

theorem failures_nodup (r : Results) : (r.failures.map (·.1)).Nodup :=
  Entries.keys_nodup r.failures_sorted

theorem isComplete_iff_error? : r.isComplete = true ↔ ∀ url, r.error? url = none := by
  simp only [isComplete_iff, Option.eq_none_iff_forall_ne_some, ne_eq, error?_eq_some_iff]

/-! ## Taking entries out -/

theorem get?_without (r : Results) (removed : List Url) (url : Url) :
    (r.without removed).entries.get? url =
      if url ∈ removed then none else r.entries.get? url := by
  induction removed generalizing r with
  | nil => rfl
  | cons first removed ih =>
    have hstep : (r.without (first :: removed)).entries.get? url =
        ((r.remove first).2.without removed).entries.get? url := rfl
    have hfirst : (r.remove first).2.entries.get? url =
        if url = first then none else r.entries.get? url := SortedMap.get?_erase ..
    rw [hstep, ih, hfirst]
    by_cases hmem : url ∈ removed
    · rw [if_pos hmem, if_pos (List.mem_cons_of_mem _ hmem)]
    · simp [hmem]

theorem keys_without (r : Results) (removed : List Url) :
    (r.without removed).entries.keys.Perm (r.entries.keys.filter (· ∉ removed)) := by
  refine SortedMap.keys_perm (r.entries.keys_nodup.filter _) ?_
  intro url
  rw [List.mem_filter, SortedMap.mem_keys, get?_without]
  by_cases hmem : url ∈ removed <;> simp [hmem]

theorem size_eq_length_keys (r : Results) : r.size = r.entries.keys.length :=
  (List.length_map _).symm

/-! ## The roll-up -/

theorem get?_ofList_documents (r : Results) (url : Url) :
    (SortedMap.ofList r.documents).get? url = r.get? url := by
  refine Option.ext fun document => ?_
  rw [← mem_documents]
  exact SortedMap.get?_ofList_eq_some_iff (Entries.keys_nodup r.documents_sorted)

/-- The roll-up loses no entry and makes none up, whatever the order of the entries. -/
theorem toExcept_rolledUp (r : Results) (order : HashOrder Url) :
    r.RolledUp (r.toExcept order) := by
  by_cases hcomplete : r.isComplete = true
  · rw [toExcept_of_isComplete hcomplete]
    have hnone := isComplete_iff_error?.mp hcomplete
    refine .documents hnone (get?_ofList_documents r) fun url => ?_
    rw [SortedMap.contains, get?_ofList_documents]
    cases views r url with
    | document hget _ hcontains => rw [hget, hcontains]; rfl
    | failure _ herror => simp [hnone] at herror
    | absent hget _ hcontains => rw [hget, hcontains]; rfl
  · rw [isComplete_iff_error?, not_forall] at hcomplete
    obtain ⟨url, herror⟩ := hcomplete
    obtain ⟨cause, hcause⟩ := Option.ne_none_iff_exists'.mp herror
    have hfailures : r.failures ≠ [] := List.ne_nil_of_mem (mem_failures_iff.mpr hcause)
    obtain ⟨failures, hperm, herror⟩ := toExcept_of_failures hfailures order
    rw [herror]
    refine .failures (fun hnil => ?_) ?_ (fun url cause => ?_) rfl
    · rw [show failures = [] from hnil] at hperm
      exact hfailures (List.nil_perm.mp hperm)
    · exact (hperm.map (·.1)).nodup_iff.mpr (failures_nodup r)
    · rw [hperm.mem_iff]
      exact mem_failures_iff

namespace RolledUp

variable {result : Except BatchError (SortedMap Url Json.Value)}

theorem ok_iff (h : r.RolledUp result) :
    (∃ documents, result = .ok documents) ↔ ∀ url, r.error? url = none := by
  cases h with
  | documents hnone => exact iff_of_true ⟨_, rfl⟩ hnone
  | @failures e hne _ hmem =>
    refine iff_of_false (by simp) fun hnone => ?_
    obtain ⟨⟨url, cause⟩, hfailure⟩ := List.exists_mem_of_ne_nil _ hne
    rw [hmem, hnone] at hfailure
    contradiction

end RolledUp

end Results

/-! ## One URL -/

namespace Results

variable {r : Results} {url : Url} {entry : Entry}

theorem exists_entries_of_single (hkeys : r.entries.keys.Perm [url]) :
    ∃ entry, r.entries.entries = [(url, entry)] := by
  have hmap : r.entries.entries.map (·.1) = [url] := List.perm_singleton.mp hkeys
  obtain ⟨⟨_, entry⟩, hentries, rfl⟩ := List.map_eq_singleton_iff.mp hmap
  exact ⟨entry, hentries⟩

theorem entries_of_single (hkeys : r.entries.keys.Perm [url])
    (hget : r.entries.get? url = some entry) : r.entries.entries = [(url, entry)] := by
  obtain ⟨entry', hentries⟩ := exists_entries_of_single hkeys
  have hmem := SortedMap.mem_entries.mpr hget
  rw [hentries, List.mem_singleton] at hmem
  rw [hentries, hmem]

/-- A single entry rolls up to its document or to its failure. -/
theorem toExcept_of_single (h : r.entries.entries = [(url, entry)]) (order : HashOrder Url) :
    match entry with
    | .ok document => ∃ documents, r.toExcept order = .ok documents ∧
      documents.entries = [(url, document)]
    | .error cause => r.toExcept order = .error ⟨[(url, cause)], 1⟩ := by
  have hwalked : order.handOut r.toList = [(url, entry)] := by
    rw [toList, h, HashOrder.handOut_of_single]
  cases entry with
  | ok document =>
    have hdocuments : r.documents = [(url, document)] := by simp [documents, toList, h]
    refine ⟨SortedMap.ofList r.documents, if_pos (by rw [hwalked]; rfl), ?_⟩
    rw [ofList_documents_entries, hdocuments]
  | error cause =>
    have hsize : r.size = 1 := by simp [size, SortedMap.size, h]
    rw [toExcept, hwalked, hsize]
    rfl

end Results

/-- The message of a batch of one URL that failed. -/
theorem BatchError.message_single (url : Url) (cause : FetchError) :
    BatchError.message ⟨[(url, cause)], 1⟩ =
      "1 of 1 urls failed: [" ++ url.text ++ ": " ++ cause.message ++ "]" := by
  have hcount : toString 1 ++ " of " ++ toString 1 ++ " urls failed: " =
      "1 of 1 urls failed: " := by decide
  have hopen : "1 of 1 urls failed: " ++ "[" = "1 of 1 urls failed: [" := by decide
  unfold message
  simp only [List.map_cons, List.map_nil, List.length_singleton, String.intercalate_singleton]
  rw [hcount, ← hopen]
  simp only [String.append_assoc]

namespace Engine

variable {env : Environment} {footing : Footing} {url : Url} {maxConnections : Nat}
  {policy : Policy} {e : Engine} {document : Json.Value}

/-- The document of a single URL is what a batch of this URL maps it to. -/
theorem fetchOne_eq_some_iff :
    (e.fetchOne env footing url maxConnections policy).1 = some document ↔
      (e.fetch env footing (Distinct.singleton url) maxConnections policy).1.results.get? url =
        some document :=
  Iff.rfl

end Engine

/-- **Nothing is lost.** Taking out entries changes nothing about the others. What is left rolls up
to documents exactly if no failure is left, which is when it is complete, and else to all failures
that are left. All views agree on each URL. The entries of a batch are those of its URLs, and a
single URL is fetched as a batch of one. -/
theorem rollUp_exact (setup : Setup) (log : List String) (batches : List Batch)
    (env : Environment) (footing : Footing) (maxConnections : Nat) (policy : Policy) :
    let e : Engine := { setup, pool := (Engine.after {} batches).pool, log }
    (∀ (r : Results) (removed : List Url) (order : HashOrder Url),
      let rest := r.without removed
      (∀ url, rest.entries.get? url = if url ∈ removed then none else r.entries.get? url) ∧
      rest.RolledUp (rest.toExcept order) ∧
      ((∃ documents, rest.toExcept order = .ok documents) ↔ ∀ url, rest.error? url = none) ∧
      (rest.isComplete = true ↔ ∃ documents, rest.toExcept order = .ok documents) ∧
      (∀ url, rest.Views url) ∧
      (rest.failures.map (·.1)).Nodup ∧
      ∀ url cause, (url, cause) ∈ rest.failures ↔ rest.error? url = some cause) ∧
    (∀ (urls : UrlSet) (removed : List Url),
      let rest := (e.fetch env footing urls maxConnections policy).1.results.without removed
      rest.entries.keys.Perm (urls.items.filter (· ∉ removed)) ∧
      rest.size = (urls.items.filter (· ∉ removed)).length) ∧
    ∀ url document, (e.fetchOne env footing url maxConnections policy).1 = some document ↔
      (e.fetch env footing (Distinct.singleton url) maxConnections policy).1.results.get? url =
        some document := by
  intro e
  refine ⟨?rollUp, ?batch, fun url document => Engine.fetchOne_eq_some_iff⟩
  case rollUp =>
    intro r removed order rest
    have hrolled : rest.RolledUp (rest.toExcept order) := rest.toExcept_rolledUp order
    refine ⟨r.get?_without removed, hrolled, hrolled.ok_iff, ?_, rest.views, rest.failures_nodup,
      fun _ _ => Results.mem_failures_iff⟩
    rw [hrolled.ok_iff, Results.isComplete_iff_error?]
  case batch =>
    intro urls removed rest
    have c : e.pool.Custody [] := Engine.after_custody .pending [] batches
    have hkeys : (e.fetch env footing urls maxConnections policy).1.results.entries.keys.Perm
        urls.items := Engine.fetch_path.keys_perm c
    have hrest : rest.entries.keys.Perm (urls.items.filter (· ∉ removed)) :=
      (Results.keys_without _ removed).trans (hkeys.filter _)
    exact ⟨hrest, rest.size_eq_length_keys.trans hrest.length_eq⟩

end MarketData
