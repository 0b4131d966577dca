import MarketData.Proofs.Batch.Custody

/-! Every URL of a batch gets one entry, on every path through `Engine.fetch`. If the loop is not
entered, all fail alike. Otherwise a URL has got a handle or was refused one, the loop at rest has
finished every handle, and what a finished handle brought is what the network answered to it at a
request for its own URL (`Batch.Origin`). -/

namespace MarketData

open Drive

/-- What a request for a URL brings. -/
def Network.entry (network : Network) (config : TransportConfig) (log : List String) (url : Url) :
    Entry :=
  Entry.ofTransfer (network.answer config log url).transfer.body
    (network.answer config log url).transfer.ending

namespace Batch

variable {b : Batch} {e : Engine} {url : Url}

/-- Where the entry of a URL comes from: no handle could be made for it, or a handle bound to it
was answered so when the batch asked for it. -/
inductive Origin (b : Batch) (e : Engine) (url : Url) : Entry → Prop
  | refused : (url, fault) ∈ (b.acquired e).refused → b.env.refuse b.config url = some fault →
    Origin b e url (.error (.transport fault))
  | answered : h ∈ (b.acquired e).handles → h.url = url → e.log <+: log →
    log ++ (b.ask log h).targets <+: (b.run e).2.log →
    Origin b e url
      (Entry.ofTransfer (b.ask log h).transfer.body (b.ask log h).transfer.ending)

/-- A handle was refused, or the entry is what the network answered at a request for the URL. -/
theorem Origin.refused_or_answered {b : Batch} {e : Engine} {url : Url} {entry : Entry}
    (h : b.Origin e url entry) :
    (∃ fault, b.env.refuse b.config url = some fault ∧ entry = .error (.transport fault)) ∨
    ∃ config log, b.env.network.entry config log url = entry := by
  cases h with
  | refused _ hrefuse => exact .inl ⟨_, hrefuse, rfl⟩
  | @answered handle log _ hbound => exact .inr ⟨handle.config, log, by rw [← hbound]; rfl⟩

/-- What is recorded for a URL that was refused a handle. -/
def refusal (p : Url × TransportFault) : Url × Entry := (p.1, .error (.transport p.2))

/-- Each attempt was the answer to one of these handles, bound to the URL of the attempt, and the
request stands in the log. -/
def Answered (b : Batch) (e : Engine) (seen : History) (log : List String) : Prop :=
  e.log <+: log ∧ ∀ p ∈ seen, ∃ h ∈ (b.acquired e).handles, ∃ log', h.url = p.1 ∧
    e.log <+: log' ∧ log' ++ (b.ask log' h).targets <+: log ∧ p.2 = (b.ask log' h).transfer

theorem Answered.snoc {seen : History} {log : List String} {h : Handle}
    (answered : b.Answered e seen log) (hmem : h ∈ (b.acquired e).handles) :
    b.Answered e (seen ++ [(h.url, (b.ask log h).transfer)])
      (log ++ (b.ask log h).targets) := by
  obtain ⟨hlog, hseen⟩ := answered
  refine ⟨hlog.trans (List.prefix_append ..), List.forall_mem_append.mpr ⟨fun p hp => ?_, ?_⟩⟩
  · obtain ⟨h', hmem', log', hurl, hstart, hend, htransfer⟩ := hseen p hp
    exact ⟨h', hmem', log', hurl, hstart, hend.trans (List.prefix_append ..), htransfer⟩
  · rw [List.forall_mem_singleton]
    exact ⟨h, hmem, log, rfl, hlog, List.prefix_rfl, rfl⟩

section

variable (c : e.pool.Custody [])
include c

theorem loop_answered : ∃ seen,
    Reaches b.policy b.maxConnections (b.acquired e).handles seen (b.loop e).1 ∧
      b.Answered e seen (b.loop e).2 ∧ (b.loop e).1.active = [] :=
  b.loop_rests c (fun hmem answered => answered.snoc hmem) ⟨List.prefix_rfl, by simp⟩

/-- Each URL has a finished handle or was refused one. -/
theorem finished_urls_perm : (((b.loop e).1.finished.map (·.1.url)) ++
    (b.acquired e).refused.map (·.1)).Perm b.urls.items := by
  obtain ⟨seen, hreach, -, ha⟩ := b.loop_answered c
  have hfinished := ((b.books c hreach).finished_perm (hreach.queue_of_rest ha) ha).map (·.url)
  simp only [List.map_map, Function.comp_def, Handle.clear_url] at hfinished
  have hserved := (b.acquiring c).served
  rw [List.append_nil] at hserved
  exact (hfinished.append_right _).trans hserved

theorem run_get?_of_not_mem (hm : url ∉ b.urls.items) :
    (b.run e).1.results.entries.get? url = none := by
  have hm := mt (b.finished_urls_perm c).mem_iff.mp hm
  simp only [List.mem_append, not_or] at hm
  rw [run_results, Engine.get?_collect_of_not_mem hm.1]
  exact Results.get?_foldl_record_of_not_mem (f := refusal) hm.2

/-- What a finished handle brought was the answer to a request for its URL. -/
theorem origin_of_finished {p : Handle × Ending} (hp : p ∈ (b.loop e).1.finished) :
    b.Origin e p.1.url (Entry.ofTransfer p.1.buffer p.2) := by
  obtain ⟨seen, hreach, ⟨-, hseen⟩, -⟩ := b.loop_answered c
  -- The buffer is the body of the last attempt at this URL, and each attempt was answered.
  obtain ⟨earlier, last, hts, -, -, hbuffer, hending, -⟩ :=
    (b.books c hreach).fits (p.1, .finished p.2) (List.mem_append_right _ (List.mem_map_of_mem hp))
  have hlast : last ∈ attemptsAt p.1.url seen := by rw [hts]; simp
  obtain ⟨h, hmem, log, hurl, hstart, hend, rfl⟩ := hseen _ (mem_attemptsAt.mp hlast)
  rw [show p.1.buffer = _ from hbuffer, hending]
  exact .answered hmem hurl hstart hend

/-- The entry of a URL is what its finished handle brought, or why it got none. -/
theorem run_entry (hm : url ∈ b.urls.items) :
    (∃ p ∈ (b.loop e).1.finished, p.1.url = url ∧
      (b.run e).1.results.entries.get? url = some (Entry.ofTransfer p.1.buffer p.2)) ∨
    ∃ fault, (url, fault) ∈ (b.acquired e).refused ∧
      (b.run e).1.results.entries.get? url = some (.error (.transport fault)) := by
  have hperm := b.finished_urls_perm c
  have hnd := List.nodup_append.mp (hperm.nodup_iff.mpr b.urls.nodup)
  rw [run_results]
  rcases List.mem_append.mp (hperm.mem_iff.mpr hm) with hfinished | hrefused
  · obtain ⟨p, hp, rfl⟩ := List.mem_map.mp hfinished
    exact .inl ⟨p, hp, rfl, Engine.get?_collect_of_mem hnd.1 hp⟩
  · obtain ⟨p, hp, rfl⟩ := List.mem_map.mp hrefused
    refine .inr ⟨p.2, hp, ?_⟩
    rw [Engine.get?_collect_of_not_mem fun hm' => hnd.2.2 _ hm' _ hrefused rfl]
    exact Results.get?_foldl_record_of_mem (f := refusal) hnd.2.1 hp

theorem run_origin (hm : url ∈ b.urls.items) :
    ∃ entry, (b.run e).1.results.entries.get? url = some entry ∧ b.Origin e url entry := by
  rcases b.run_entry c hm with ⟨p, hp, rfl, hget⟩ | ⟨fault, hrefused, hget⟩
  · exact ⟨_, hget, b.origin_of_finished c hp⟩
  · exact ⟨_, hget, .refused hrefused ((b.acquiring c).refusals _ hrefused)⟩

theorem run_keys_perm : (b.run e).1.results.entries.keys.Perm b.urls.items := by
  refine SortedMap.keys_perm b.urls.nodup fun url => ⟨fun hm => ?_, fun ⟨entry, hget⟩ => ?_⟩
  · obtain ⟨entry, hget, -⟩ := b.run_origin c hm
    exact ⟨entry, hget⟩
  · by_contra hm
    rw [run_get?_of_not_mem c hm] at hget
    contradiction

end

end Batch

/-! ## Paths -/

theorem Results.allFailed_keys_perm (urls : UrlSet) (error : FetchError) :
    (Results.allFailed urls error).entries.keys.Perm urls.items := by
  refine SortedMap.keys_perm urls.nodup fun url => ?_
  rw [Results.get?_allFailed]
  split <;> simp [*]

/-- Every URL failed for one reason, with nothing asked of the network and the pool as it was. -/
structure Engine.Fails (e : Engine) (urls : UrlSet) (error : FetchError) (r : BatchRun × Engine) :
    Prop where
  entry : ∀ url ∈ urls.items, r.1.results.entries.get? url = some (.error error)
  started : r.1.started = []
  log : r.2.log = e.log
  pool : r.2.pool = e.pool

namespace Engine

variable {env : Environment} {footing : Footing} {urls : UrlSet} {maxConnections : Nat}
  {policy : Policy} {e : Engine} {reason : String}

theorem fails_allFailed (setup : Setup) (error : FetchError) :
    e.Fails urls error ({ results := .allFailed urls error }, { e with setup }) where
  entry := fun url hm => by rw [Results.get?_allFailed, if_pos hm]
  started := rfl
  log := rfl
  pool := rfl

/-- The engine once the set-up of the transport has been tried. -/
def ready (env : Environment) (e : Engine) : Engine :=
  { e with setup := e.setup.install env.build {} }

theorem fetch_of_isEmpty (h : urls.isEmpty = true) :
    e.fetch env footing urls maxConnections policy = ({ results := .empty }, e) := if_pos h

section

variable (h : urls.isEmpty = false)
include h

theorem fetch_of_setup_error (hsetup : (e.setup.install env.build {}).config = .error reason) :
    e.fetch env footing urls maxConnections policy =
      ({ results := .allFailed urls (.setup reason) }, e.ready env) := by
  simp [fetch, ready, h, hsetup]

theorem fetch_of_obstacle {config : TransportConfig}
    (hsetup : (e.setup.install env.build {}).config = .ok config)
    (hfooting : footing.obstacle? = some reason) :
    e.fetch env footing urls maxConnections policy =
      ({ results := .allFailed urls (.driver reason) }, e.ready env) := by
  simp [fetch, ready, h, hsetup, hfooting]

theorem fetch_of_free {config : TransportConfig}
    (hsetup : (e.setup.install env.build {}).config = .ok config)
    (hfooting : footing.obstacle? = none) :
    e.fetch env footing urls maxConnections policy =
      Batch.run { env, config, urls, maxConnections, policy } (e.ready env) := by
  simp [fetch, ready, h, hsetup, hfooting, Batch.run]

end

end Engine

/-- **Coverage.** With whatever set-up, on whatever thread and after any batches, the keys of the
results are the URLs asked for, each once. A thread without transport, or that cannot drive
transfers, fails them all; otherwise the entry of each is what was answered to a handle bound to it,
or why it has none. -/
theorem fetch_covers (setup : Setup) (log : List String) (batches : List Batch)
    (env : Environment) (footing : Footing) (urls : UrlSet) (maxConnections : Nat)
    (policy : Policy) :
    let e : Engine := { setup, pool := (Engine.after {} batches).pool, log }
    let r := e.fetch env footing urls maxConnections policy
    r.1.results.entries.keys.Perm urls.items ∧
    match (setup.install env.build {}).config, footing.obstacle? with
    | .error reason, _ => e.Fails urls (.setup reason) r
    | .ok _, some reason => e.Fails urls (.driver reason) r
    | .ok config, none => ∀ url ∈ urls.items, ∃ entry,
      r.1.results.entries.get? url = some entry ∧
        Batch.Origin { env, config, urls, maxConnections, policy } e url entry := by
  intro e r
  have c : e.pool.Custody [] := Engine.after_custody .pending [] batches
  cases hempty : urls.isEmpty with
  | true =>
    have hr : r = ({ results := .empty }, e) := Engine.fetch_of_isEmpty hempty
    have hnil : urls.items = [] := List.isEmpty_iff.mp hempty
    have hfails (error : FetchError) : e.Fails urls error r :=
      ⟨by simp [hnil], by rw [hr], by rw [hr], by rw [hr]⟩
    refine ⟨by rw [hr, hnil]; rfl, ?_⟩
    split
    · exact hfails _
    · exact hfails _
    · simp [hnil]
  | false =>
    cases hsetup : (setup.install env.build {}).config with
    | error reason =>
      rw [show r = _ from Engine.fetch_of_setup_error hempty hsetup]
      exact ⟨Results.allFailed_keys_perm .., Engine.fails_allFailed ..⟩
    | ok config =>
      cases hfooting : footing.obstacle? with
      | some reason =>
        rw [show r = _ from Engine.fetch_of_obstacle hempty hsetup hfooting]
        exact ⟨Results.allFailed_keys_perm .., Engine.fails_allFailed ..⟩
      | none =>
        rw [show r = _ from Engine.fetch_of_free hempty hsetup hfooting]
        exact ⟨Batch.run_keys_perm c, fun url hm => Batch.run_origin c hm⟩

end MarketData
