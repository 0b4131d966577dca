import MarketData.Proofs.Batch.Custody
import MarketData.Proofs.Batch.Schedule

/-! The pool is not seen from outside. The handles of a batch come from it empty, with distinct ids
and with the URLs of the batch (`Pool.Acquiring`), so a batch under a script settles as the script
has it, whatever ran before. A session therefore agrees, batch by batch, with one in which each
batch starts with an empty pool. -/

namespace MarketData

open Drive

section

variable {policy : Policy} {script : Url → Nat → Transfer} {urls urls' : List Url}
  {results results' : Results} {started started' : List Url}

theorem Settles.perm (h : Settles policy script urls results started) (hperm : urls.Perm urls') :
    Settles policy script urls' results started where
  entry := fun url hm => h.entry url (hperm.mem_iff.mpr hm)
  requests := fun url hm => h.requests url (hperm.mem_iff.mpr hm)
  others := fun url hm => h.others url (mt hperm.mem_iff.mp hm)

theorem Settles.mem_toList (h : Settles policy script urls results started) {url : Url}
    {entry : Entry} :
    (url, entry) ∈ results.toList ↔ url ∈ urls ∧ entry = policy.entry (script url) := by
  rw [Results.toList, SortedMap.mem_entries]
  by_cases hm : url ∈ urls
  · rw [h.entry url hm, Option.some.injEq, eq_comm]
    exact (and_iff_right hm).symm
  · rw [(h.others url hm).1]
    simp [hm]

/-- A script leaves no choice of the results and of the number of requests. -/
theorem Settles.unique (h : Settles policy script urls results started)
    (h' : Settles policy script urls results' started') :
    results = results' ∧ ∀ url, started.count url = started'.count url := by
  refine ⟨Results.ext_get? fun url => ?_, fun url => ?_⟩
  all_goals by_cases hm : url ∈ urls
  · rw [h.entry url hm, h'.entry url hm]
  · rw [(h.others url hm).1, (h'.others url hm).1]
  · rw [h.requests url hm, h'.requests url hm]
  · rw [(h.others url hm).2, (h'.others url hm).2]

end

namespace Batch

variable {b b' : Batch} {e e' : Engine} {script : Url → Nat → Transfer}

/-- A batch under a script settles all its URLs, if it can make handles, whichever it is lent. -/
theorem settles_of_custody (c : e.pool.Custody []) (hnet : b.env.network = .ofScript script)
    (hmake : ∀ url, b.env.refuse b.config url = none) :
    Settles b.policy (scriptAfter e.log script) b.urls.items (b.run e).1.results
        (b.run e).1.started ∧
      ∀ url, (b.run e).2.log.count url.text =
        e.log.count url.text + (b.run e).1.started.count url := by
  have hrefused := refused_eq_nil c hmake
  have hserved : ((b.acquired e).handles.map (·.url)).Perm b.urls.items := by
    simpa [hrefused] using (b.acquiring c).served
  have q := b.acquiring c
  exact (run_settles hnet q.custody.ids_nodup q.custody.urls_nodup q.emptied
    hrefused).imp_left (·.perm hserved)

/-- The batches ask for the same URLs under one policy and one script, and can make handles. They
may differ in the cap on connections, in the order of completions and in the idle handles they
rebind. -/
structure Alike (b b' : Batch) : Prop where
  urls : b.urls.items.Perm b'.urls.items
  policy : b.policy = b'.policy
  network : ∃ script, b.env.network = .ofScript script ∧ b'.env.network = .ofScript script
  make : ∀ url, b.env.refuse b.config url = none
  make' : ∀ url, b'.env.refuse b'.config url = none

end Batch

/-- The same entries, after as many requests for each URL. -/
structure BatchRun.Agrees (r r' : BatchRun) : Prop where
  results : r.results = r'.results
  requests : ∀ url, r.started.count url = r'.started.count url

/-- Alike batches agree after logs that count the same, whatever is in the two pools. -/
theorem Batch.Alike.agrees {b b' : Batch} {e e' : Engine} (h : b.Alike b')
    (c : e.pool.Custody []) (c' : e'.pool.Custody [])
    (hlog : ∀ url : Url, e.log.count url.text = e'.log.count url.text) :
    (b.run e).1.Agrees (b'.run e').1 ∧
      ∀ url : Url, (b.run e).2.log.count url.text = (b'.run e').2.log.count url.text := by
  obtain ⟨script, hnet, hnet'⟩ := h.network
  obtain ⟨hsettles, hcount⟩ := settles_of_custody c hnet h.make
  obtain ⟨hsettles', hcount'⟩ := settles_of_custody c' hnet' h.make'
  have hscript : scriptAfter e'.log script = scriptAfter e.log script := by
    funext url n
    rw [scriptAfter, scriptAfter, hlog]
  rw [hscript, ← h.policy] at hsettles'
  obtain ⟨hresults, hrequests⟩ := hsettles.unique (hsettles'.perm h.urls.symm)
  exact ⟨⟨hresults, hrequests⟩, fun url => by rw [hcount, hcount', hlog, hrequests]⟩

/-! ## Sessions -/

namespace Engine

/-- One batch after the other, with the pool that the last one left. -/
def runs (e : Engine) : List Batch → List BatchRun
  | [] => []
  | b :: batches => (b.run e).1 :: (b.run e).2.runs batches

def emptied (e : Engine) : Engine := { e with pool := .empty }

/-- One batch after the other, each with an empty pool. -/
def runsApart (e : Engine) : List Batch → List BatchRun
  | [] => []
  | b :: batches => (b.run e.emptied).1 :: (b.run e.emptied).2.runsApart batches

theorem runs_agree {e e' : Engine} {batches batches' : List Batch}
    (h : List.Forall₂ Batch.Alike batches batches') (c : e.pool.Custody [])
    (hlog : ∀ url : Url, e.log.count url.text = e'.log.count url.text) :
    List.Forall₂ BatchRun.Agrees (e.runs batches) (e'.runsApart batches') := by
  induction h generalizing e e' with
  | nil => exact .nil
  | cons halike _ ih =>
    obtain ⟨hagrees, hlog'⟩ := halike.agrees c (show e'.emptied.pool.Custody [] from .empty) hlog
    exact .cons hagrees (ih (Batch.run_custody c) hlog')

end Engine

/-- **Pool transparency.** A session agrees in every batch with one that starts each batch with an
empty pool, whichever idle handles were rebound; and what each batch brings is what the script has
for the attempts that the policy makes at each URL, counted from the first of that batch. -/
theorem pool_transparent (setup : Setup) (log : List String) {batches batches' : List Batch}
    (h : List.Forall₂ Batch.Alike batches batches') :
    List.Forall₂ BatchRun.Agrees (Engine.runs { setup, log } batches)
        (Engine.runsApart { setup, log } batches') ∧
      ∀ before b rest script, batches = before ++ b :: rest →
        b.env.network = .ofScript script →
        let e := Engine.after { setup, log } before
        Settles b.policy (scriptAfter e.log script) b.urls.items (b.run e).1.results
          (b.run e).1.started := by
  refine ⟨Engine.runs_agree h .empty fun _ => rfl, fun before b rest script heq hnet => ?_⟩
  have hmake := ((List.forall₂_and_left batches batches').mp
    (h.imp fun _ _ halike => ⟨halike.make, halike⟩)).1
  exact (Batch.settles_of_custody (Engine.after_custody setup log before) hnet
    (hmake b (by simp [heq]))).1

/-! One URL is cut off after part of its body; then the handle that saw this serves another. -/
namespace CutOff

def script (url : Url) (_ : Nat) : Transfer :=
  if url = ⟨"http://a/"⟩ then ⟨[[0x7B]], .failed (.errorStatus 500 "X" "http://a/")⟩
  else ⟨[[0x31]], .done⟩

def batch (text : String) (maxConnections : Nat) : Batch where
  env := { network := .ofScript script }
  config := {}
  urls := Distinct.singleton ⟨text⟩
  maxConnections
  policy := { maxRetries := 0 }

theorem alike (text : String) (m n : Nat) : (batch text m).Alike (batch text n) where
  urls := .rfl
  policy := rfl
  network := ⟨script, rfl, rfl⟩
  make := fun _ => rfl
  make' := fun _ => rfl

end CutOff

theorem pool_transparent_cutOff :
    List.Forall₂ BatchRun.Agrees
        (Engine.runs {} [CutOff.batch "http://a/" 1, CutOff.batch "http://b/" 1])
        (Engine.runsApart {} [CutOff.batch "http://a/" 0, CutOff.batch "http://b/" 2]) ∧
      let e := Engine.after {} [CutOff.batch "http://a/" 1]
      Settles { maxRetries := 0 } (scriptAfter e.log CutOff.script) [⟨"http://b/"⟩]
        ((CutOff.batch "http://b/" 1).run e).1.results
        ((CutOff.batch "http://b/" 1).run e).1.started :=
  have transparent := pool_transparent .pending []
    (.cons (CutOff.alike "http://a/" 1 0) (.cons (CutOff.alike "http://b/" 1 2) .nil))
  ⟨transparent.1, transparent.2 [_] _ [] CutOff.script rfl rfl⟩

end MarketData
