import MarketData.Proofs.Batch.Basic

/-! Batches under a script, which fixes what the n-th attempt at each URL brings. Whatever the order
in which transfers end, a URL gets the attempts that the policy would make at it alone, and its
entry is what the last of them brought. -/

namespace MarketData

open Drive

section

variable {script : Url → Nat → Transfer} {policy : Policy} {maxConnections : Nat}
  {handles : List Handle} {seen : History} {d : Drive}

/-- Each attempt brought what the script says for its number among those at its URL. -/
def Scripted (script : Url → Nat → Transfer) (seen : History) : Prop :=
  ∀ url i t, (attemptsAt url seen)[i]? = some t → t = script url i

theorem Scripted.nil : Scripted script [] := fun _ _ _ h => by simp at h

theorem Scripted.snoc (h : Scripted script seen) (url : Url) :
    Scripted script (seen ++ [(url, script url (attemptsAt url seen).length)]) := by
  intro url' i t hi
  by_cases hurl : url' = url
  · subst hurl
    rw [attemptsAt_snoc_self] at hi
    rcases Nat.lt_or_ge i (attemptsAt url' seen).length with hlt | hge
    · exact h url' i t (by rwa [List.getElem?_append_left hlt] at hi)
    · rw [List.getElem?_append_right hge, List.getElem?_singleton] at hi
      split at hi
      · rw [← Option.some.inj hi, show i = (attemptsAt url' seen).length by omega]
      · simp at hi
  · rw [attemptsAt_snoc_of_ne hurl] at hi
    exact h url' i t hi

theorem Scripted.attemptsAt_eq (h : Scripted script seen) (url : Url) :
    attemptsAt url seen = (List.range (attemptsAt url seen).length).map (script url) := by
  refine List.ext_getElem (by simp) fun i hi _ => ?_
  rw [List.getElem_map, List.getElem_range]
  exact h url i _ (List.getElem?_eq_getElem hi)

/-- How a batch of these URLs ends under a script: the entries, and the URLs of the requests made
for them. -/
structure Settles (policy : Policy) (script : Url → Nat → Transfer) (urls : List Url)
    (results : Results) (started : List Url) : Prop where
  entry : ∀ url ∈ urls, results.entries.get? url = some (policy.entry (script url))
  requests : ∀ url ∈ urls, started.count url = policy.lastAttempt (script url) + 1
  others : ∀ url, url ∉ urls → results.entries.get? url = none ∧ started.count url = 0

/-- The attempts at the URL of a finished handle under a script. -/
theorem attemptsAt_of_finished (hscript : Scripted script seen) {p : Handle × Ending}
    (h : FitsIn policy seen d (p.1, .finished p.2)) :
    (attemptsAt p.1.url seen).length = policy.lastAttempt (script p.1.url) + 1 ∧
      d.started.count p.1.url = policy.lastAttempt (script p.1.url) + 1 ∧
      Entry.ofTransfer p.1.buffer p.2 = policy.entry (script p.1.url) := by
  obtain ⟨earlier, last, hts, hearlier, hlast, hbuf, hending, _, hreq⟩ := h
  simp only at hts hreq hending hbuf
  have hconcludes := Policy.Concludes.intro hearlier hlast
  rw [← hts] at hconcludes
  obtain ⟨hlength, hentry⟩ := hconcludes.of_replies (hscript p.1.url)
  refine ⟨hlength, ?_, by rw [hbuf, hending, hentry]⟩
  rw [hreq, ← hlength, hts, List.length_append, List.length_singleton]

/-- The loop at rest has settled every URL. -/
theorem Drive.Books.settles (hurl : (handles.map (·.url)).Nodup) (b : Books policy handles seen d)
    (hq : d.queue = []) (ha : d.active = []) (hscript : Scripted script seen) :
    Settles policy script (handles.map (·.url)) (Engine.collect .empty d.finished).1 d.started := by
  have hperm : (d.finished.map (·.1.url)).Perm (handles.map (·.url)) := by
    simpa [Function.comp_def] using (b.finished_perm hq ha).map (·.url)
  have hnd : (d.finished.map (·.1.url)).Nodup := hperm.nodup_iff.mpr hurl
  have hfinished : ∀ url ∈ handles.map (·.url), ∃ p ∈ d.finished, p.1.url = url ∧
      FitsIn policy seen d (p.1, .finished p.2) := by
    intro url hmem
    obtain ⟨h, hh, rfl⟩ := List.mem_map.mp hmem
    obtain ⟨p, hp, hsame, hfits⟩ := b.finished_of_rest hq ha hh
    exact ⟨p, hp, by simpa using congrArg Handle.url hsame, hfits⟩
  refine ⟨fun url hmem => ?_, fun url hmem => ?_, fun url hmem => ?_⟩
  · obtain ⟨p, hp, rfl, hfits⟩ := hfinished url hmem
    rw [Engine.get?_collect_of_mem hnd hp, (attemptsAt_of_finished hscript hfits).2.2]
  · obtain ⟨p, hp, rfl, hfits⟩ := hfinished url hmem
    exact (attemptsAt_of_finished hscript hfits).2.1
  · refine ⟨?_, (b.others url hmem).2⟩
    rw [Engine.get?_collect_of_not_mem (mt hperm.mem_iff.mp hmem), Results.get?_empty]

/-! ## The executable loop -/

/-- The script of a batch that begins after the requests in `log`. -/
def scriptAfter (log : List String) (script : Url → Nat → Transfer) (url : Url) (n : Nat) :
    Transfer := script url (log.count url.text + n)

/-- A script that counts on from the log. -/
theorem scriptAfter_sub (log : List String) (script : Url → Nat → Transfer) :
    scriptAfter log (fun url n => script url (n - log.count url.text)) = script := by
  funext url n
  rw [scriptAfter, Nat.add_sub_cancel_left]

theorem count_text_snoc (log : List String) (url url' : Url) (t : Transfer) (seen : History)
    {k : Nat} (h : log.count url.text = k + (attemptsAt url seen).length) :
    (log ++ [url'.text]).count url.text =
      k + (attemptsAt url (seen ++ [(url', t)])).length := by
  by_cases hurl : url = url'
  · subst hurl
    rw [attemptsAt_snoc_self, List.count_append, List.count_singleton_self, List.length_append,
      List.length_singleton, h, Nat.add_assoc]
  · have htext : url'.text ≠ url.text := fun heq => hurl (by cases url; cases url'; simp_all)
    rw [attemptsAt_snoc_of_ne hurl, List.count_append, h]
    simp [htext]

/-- A batch under a script comes to rest, and the log counts its attempts. -/
theorem Batch.loop_scripted {b : Batch} {e : Engine} (hnet : b.env.network = .ofScript script)
    (hid : ((b.acquired e).handles.map (·.id)).Nodup)
    (hurl : ((b.acquired e).handles.map (·.url)).Nodup)
    (hempty : ∀ h ∈ (b.acquired e).handles, h.buffer = []) :
    ∃ seen, Reaches b.policy b.maxConnections (b.acquired e).handles seen (b.loop e).1 ∧
      (Scripted (scriptAfter e.log script) seen ∧ ∀ url,
        (b.loop e).2.count url.text = e.log.count url.text + (attemptsAt url seen).length) ∧
      (b.loop e).1.active = [] := by
  refine run_rests (I := fun seen log => Scripted (scriptAfter e.log script) seen ∧ ∀ url,
    log.count url.text = e.log.count url.text + (attemptsAt url seen).length)
    (fun {seen log d index flight} _ _ hI => ?_) hid hurl hempty ⟨.nil, fun _ => rfl⟩ rfl
  obtain ⟨hscript, hlog⟩ := hI
  have htransfer : (b.ask log flight.handle).transfer =
      scriptAfter e.log script flight.handle.url (attemptsAt flight.handle.url seen).length := by
    simp only [Batch.ask, hnet, Network.ofScript, hlog, scriptAfter]
  have htargets : (b.ask log flight.handle).targets = [flight.handle.url.text] := by
    simp only [Batch.ask, hnet, Network.ofScript]
  rw [htransfer, htargets]
  exact ⟨hscript.snoc _, fun url => count_text_snoc _ _ _ _ _ (hlog url)⟩

/-- The results, requests and log of a batch whose handles were all made. -/
theorem Batch.run_settles {b : Batch} {e : Engine} (hnet : b.env.network = .ofScript script)
    (hid : ((b.acquired e).handles.map (·.id)).Nodup)
    (hurl : ((b.acquired e).handles.map (·.url)).Nodup)
    (hempty : ∀ h ∈ (b.acquired e).handles, h.buffer = [])
    (hrefused : (b.acquired e).refused = []) :
    Settles b.policy (scriptAfter e.log script) ((b.acquired e).handles.map (·.url))
        (b.run e).1.results (b.run e).1.started ∧
      ∀ url, (b.run e).2.log.count url.text =
        e.log.count url.text + (b.run e).1.started.count url := by
  obtain ⟨seen, hreach, ⟨hscript, hlog⟩, ha⟩ := loop_scripted hnet hid hurl hempty
  have hbooks := hreach.books hid hurl hempty
  have hq := hreach.queue_of_rest ha
  have hsettles := hbooks.settles hurl hq ha hscript
  refine ⟨?_, fun url => ?_⟩
  · rw [run_results, run_started, refusals, hrefused]
    exact hsettles
  · rw [run_log, run_started, hlog]
    rw [hbooks.requests_of_rest hq ha]

/-- **Schedule independence.** Under a script no run of the loop goes on for longer than its turns,
and every run that comes to rest, whichever transfers ended first and however often the loop ticked
idly, leaves the same results after the same requests. So does a batch over these handles, for every
choice of the transfer that ends next. -/
theorem results_schedule_independent (policy : Policy) (maxConnections : Nat)
    (script : Url → Nat → Transfer) {handles : List Handle} (hid : (handles.map (·.id)).Nodup)
    (hurl : (handles.map (·.url)).Nodup) (hempty : ∀ h ∈ handles, h.buffer = []) :
    (∀ seen d, Reaches policy maxConnections handles seen d → Scripted script seen →
      seen.length + d.active.length ≤ turns policy handles ∧
      (d.active = [] →
        Settles policy script (handles.map (·.url)) (Engine.collect .empty d.finished).1
          d.started ∧
        ∀ url ∈ handles.map (·.url), attemptsAt url seen =
          (List.range (policy.lastAttempt (script url) + 1)).map (script url))) ∧
    ∀ (b : Batch) (e : Engine), b.policy = policy →
      b.env.network = .ofScript (fun url n => script url (n - e.log.count url.text)) →
      (b.acquired e).handles = handles → (b.acquired e).refused = [] →
      Settles policy script (handles.map (·.url)) (b.run e).1.results (b.run e).1.started := by
  refine ⟨fun seen d hreach hscript => ?_, fun b e hpolicy hnet hacquired hrefused => ?_⟩
  · have hbooks := hreach.books hid hurl hempty
    refine ⟨hbooks.length_le hurl, fun ha => ?_⟩
    have hq := hreach.queue_of_rest ha
    have hsettles := hbooks.settles hurl hq ha hscript
    refine ⟨hsettles, fun url hmem => ?_⟩
    rw [← hsettles.requests url hmem, hbooks.requests_of_rest hq ha]
    exact hscript.attemptsAt_eq url
  · subst hpolicy hacquired
    have hscript : scriptAfter e.log
        (fun url n => script url (n - e.log.count url.text)) = script := by
      funext url n
      rw [scriptAfter, Nat.add_sub_cancel_left]
    exact hscript ▸ (Batch.run_settles hnet hid hurl hempty hrefused).1

end

/-! Two URLs, one connection: the first URL is answered with a status that is retried, after part of
a body, and then in two pieces. -/
namespace TwoUrls

def first : Url := ⟨"http://a/"⟩

def second : Url := ⟨"http://b/"⟩

def handles : List Handle :=
  [{ id := 0, url := first, config := {} }, { id := 1, url := second, config := {} }]

def policy : Policy := { maxRetries := 1, retriedStatuses := SortedMap.insert ∅ 429 () }

def script (url : Url) (n : Nat) : Transfer :=
  if url = first ∧ n = 0 then ⟨[[0x7B]], .failed (.errorStatus 429 "X" "http://a/")⟩
  else ⟨[[0x32], [0x33]], .done⟩

def seen : History := [(first, script first 0), (first, script first 1), (second, script second 0)]

/-- The loop at rest, after an idle tick on the way. -/
def rest : Drive :=
  (((start 1 handles).complete policy 1 0 (script first 0)).refill 1)
    |>.complete policy 1 0 (script first 1)
    |>.complete policy 1 0 (script second 0)

def batch : Batch where
  env := { network := .ofScript fun url n => script url (n - 0) }
  config := {}
  urls := ⟨[first, second], by decide⟩
  maxConnections := 1
  policy := policy

theorem reaches_rest : Reaches policy 1 handles seen rest :=
  have attempt : Reaches policy 1 handles _ _ := .complete (script first 0) .start
    (show (start 1 handles).active[0]? = some ⟨handles[0], 0⟩ from rfl)
  have again := Reaches.complete (script first 1) attempt.tick
    (show _[0]? = some ⟨handles[0], policy.pause⟩ from rfl)
  Reaches.complete (script second 0) again (show _[0]? = some ⟨handles[1], 0⟩ from rfl)

theorem scripted_seen : Scripted script seen :=
  have attempts : Scripted script _ := ((Scripted.nil.snoc first).snoc first).snoc second
  attempts

end TwoUrls

theorem results_schedule_independent_twoUrls :
    Settles TwoUrls.policy TwoUrls.script [TwoUrls.first, TwoUrls.second]
        (Engine.collect .empty TwoUrls.rest.finished).1 TwoUrls.rest.started ∧
      Settles TwoUrls.policy TwoUrls.script [TwoUrls.first, TwoUrls.second]
        (TwoUrls.batch.run {}).1.results (TwoUrls.batch.run {}).1.started :=
  have independent := results_schedule_independent TwoUrls.policy 1 TwoUrls.script
    (show (TwoUrls.handles.map (·.id)).Nodup by decide)
    (show (TwoUrls.handles.map (·.url)).Nodup by decide)
    (show ∀ h ∈ TwoUrls.handles, h.buffer = [] by decide)
  ⟨((independent.1 _ _ TwoUrls.reaches_rest TwoUrls.scripted_seen).2 rfl).1,
    independent.2 TwoUrls.batch {} rfl rfl rfl rfl⟩

end MarketData
