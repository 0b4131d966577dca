import MarketData.Proofs.Batch.Reports
import MarketData.Proofs.Batch.Transparency

/-! Two policies, one of which allows all that the other does (`Policy.Loosens`). Under a script the
looser policy makes as many attempts at a URL or more, since it stops only where the other would
have stopped by then (`Policy.Loosens.lastAttempt_le`); where the other stopped at an attempt that
the looser one does not retry, it stops too. So nothing that was fetched is lost (`Improves`),
whatever order of completions each of the two runs had. -/

namespace MarketData

open Drive

namespace Policy

variable {p q : Policy} {reply : Nat → Transfer}

/-- What `p` retries, `q` retries, and as often. -/
structure Loosens (p q : Policy) : Prop where
  maxRetries : p.maxRetries ≤ q.maxRetries
  statuses : ∀ s, p.retriesStatus s = true → q.retriesStatus s = true
  empty : p.retryEmpty = true → q.retryEmpty = true

namespace Loosens

variable (h : p.Loosens q)
include h

theorem isRetryable {o : Outcome} (ho : p.isRetryable o = true) : q.isRetryable o = true := by
  cases o with
  | received empty =>
    obtain ⟨hempty, hretry⟩ : empty = true ∧ p.retryEmpty = true := by
      simpa [Policy.isRetryable] using ho
    simp [Policy.isRetryable, hempty, h.empty hretry]
  | httpError s => exact h.statuses s ho
  | transportError => exact ho

/-- Where `q` stops, `p` has stopped. -/
theorem lastAttempt_le : p.lastAttempt reply ≤ q.lastAttempt reply := by
  rcases q.lastAttempt_stops reply with hmax | hsettled
  · have hfewer : p.maxRetries.toNat ≤ q.lastAttempt reply :=
      hmax ▸ UInt32.le_iff_toNat_le.mp h.maxRetries
    exact (Policy.lastAttempt_le (.inl rfl)).trans hfewer
  · refine Policy.lastAttempt_le (.inr (Bool.eq_false_iff.mpr fun hretry => ?_))
    rw [h.isRetryable hretry] at hsettled
    contradiction

/-- Where `p` stopped at what `q` does not retry, `q` stops. -/
theorem lastAttempt_eq (hlast : q.isRetryable (reply (p.lastAttempt reply)).outcome = false) :
    q.lastAttempt reply = p.lastAttempt reply :=
  Nat.le_antisymm (Policy.lastAttempt_le (.inr hlast)) h.lastAttempt_le

end Loosens

end Policy

/-! ## Two runs -/

/-- What a run under `q` left, next to one under a policy that allows less: as many attempts or
more, and the same where the other run ended with a document, or with an attempt that `q` does not
retry. -/
structure Improves (q : Policy) (script : Url → Nat → Transfer) (urls : List Url)
    (results : Results) (started : List Url) (results' : Results) (started' : List Url) :
    Prop where
  attempts : ∀ url, started.count url ≤ started'.count url
  document : ∀ url document, results.get? url = some document →
    results'.get? url = some document ∧ started'.count url = started.count url
  settled : ∀ url ∈ urls, ∀ n, started.count url = n + 1 →
    q.isRetryable (script url n).outcome = false →
    results'.entries.get? url = results.entries.get? url ∧
      started'.count url = started.count url

section

variable {p q policy : Policy} {script : Url → Nat → Transfer} {urls : List Url}
  {results results' : Results} {started started' : List Url}

theorem Settles.unchanged (h : p.Loosens q) (hp : Settles p script urls results started)
    (hq : Settles q script urls results' started') {url : Url} (hm : url ∈ urls)
    (hlast : q.isRetryable (script url (p.lastAttempt (script url))).outcome = false) :
    results'.entries.get? url = results.entries.get? url ∧
      started'.count url = started.count url := by
  have hsame := h.lastAttempt_eq hlast
  rw [hp.entry url hm, hq.entry url hm, hp.requests url hm, hq.requests url hm, Policy.entry,
    Policy.entry, hsame]
  exact ⟨rfl, rfl⟩

theorem Settles.improves (h : p.Loosens q) (hp : Settles p script urls results started)
    (hq : Settles q script urls results' started') :
    Improves q script urls results started results' started' where
  attempts := by
    intro url
    by_cases hm : url ∈ urls
    · rw [hp.requests url hm, hq.requests url hm]
      exact Nat.succ_le_succ h.lastAttempt_le
    · rw [(hp.others url hm).2]
      exact Nat.zero_le _
  document := by
    intro url document hget
    have hentry := Results.get?_eq_some_iff.mp hget
    have hm : url ∈ urls := by
      by_contra hm
      rw [(hp.others url hm).1] at hentry
      contradiction
    -- A document is what no policy retries.
    have hlast : q.isRetryable (script url (p.lastAttempt (script url))).outcome = false := by
      have hbrought := (hp.entry url hm).symm.trans hentry
      rw [(script url _).judged.isRetryable_eq]
      exact congrArg q.retriesEntry (Option.some.inj hbrought)
    obtain ⟨hsame, hcount⟩ := hp.unchanged h hq hm hlast
    exact ⟨Results.get?_eq_some_iff.mpr (hsame.trans hentry), hcount⟩
  settled := by
    intro url hm n hn hlast
    obtain rfl : p.lastAttempt (script url) = n := by
      rw [hp.requests url hm] at hn
      exact Nat.succ.inj hn
    exact hp.unchanged h hq hm hlast

/-- What may be left for these URLs under a policy and a script: the loop came to rest, whatever its
cap and the order of completions, or a batch was run after any others. -/
inductive Leaves (policy : Policy) (script : Url → Nat → Transfer) (urls : List Url) :
    Results → List Url → Prop
  | loop {handles : List Handle} : (handles.map (·.id)).Nodup → (handles.map (·.url)).Nodup →
    (∀ h ∈ handles, h.buffer = []) → (handles.map (·.url)).Perm urls →
    Reaches policy maxConnections handles seen d → Scripted script seen → d.active = [] →
    Leaves policy script urls (Engine.collect .empty d.finished).1 d.started
  | batch (setup : Setup) (log : List String) (batches : List Batch) {b : Batch} :
    e = Engine.after { setup, log } batches → b.policy = policy →
    b.env.network = .ofScript (fun url n => script url (n - e.log.count url.text)) →
    (∀ url, b.env.refuse b.config url = none) → b.urls.items.Perm urls →
    Leaves policy script urls (b.run e).1.results (b.run e).1.started

theorem Leaves.settles (h : Leaves policy script urls results started) :
    Settles policy script urls results started := by
  cases h with
  | loop hid hurl hempty hperm hreach hscript ha =>
    have hbooks := hreach.books hid hurl hempty
    exact (hbooks.settles hurl (hreach.queue_of_rest ha) ha hscript).perm hperm
  | @batch e setup log batches b hafter hpolicy hnet hmake hperm =>
    subst hpolicy hafter
    have c := Engine.after_custody setup log batches
    have hsettles := (Batch.settles_of_custody c hnet hmake).1
    rw [scriptAfter_sub] at hsettles
    exact hsettles.perm hperm

end

/-- **A looser policy does no harm.** Of two runs for the same URLs under one script, each with its
own cap, handles and order of completions, the one under the looser policy makes as many attempts at
each URL or more. Where the other brought a document, or ended with an attempt that the looser
policy does not retry, it brings the same after as many attempts. -/
theorem looser_policy_improves {p q : Policy} (h : p.Loosens q) {script : Url → Nat → Transfer}
    {urls : List Url} {results results' : Results} {started started' : List Url}
    (hp : Leaves p script urls results started) (hq : Leaves q script urls results' started') :
    Improves q script urls results started results' started' :=
  hp.settles.improves h hq.settles

/-! A policy without retries next to one that retries once. -/
namespace NoneAndOne

def strict : Policy := { TwoUrls.policy with maxRetries := 0 }

theorem loosens : strict.Loosens TwoUrls.policy where
  maxRetries := by decide
  statuses := fun _ hs => hs
  empty := id

def batch : Batch := { TwoUrls.batch with policy := strict }

theorem leaves_batch : Leaves strict TwoUrls.script [TwoUrls.first, TwoUrls.second]
    (batch.run {}).1.results (batch.run {}).1.started :=
  .batch .pending [] [] rfl rfl rfl (fun _ => rfl) .rfl

theorem leaves_rest : Leaves TwoUrls.policy TwoUrls.script [TwoUrls.first, TwoUrls.second]
    (Engine.collect .empty TwoUrls.rest.finished).1 TwoUrls.rest.started :=
  .loop (by decide) (by decide) (by decide) .rfl TwoUrls.reaches_rest TwoUrls.scripted_seen rfl

end NoneAndOne

theorem looser_policy_improves_oneRetry :
    Improves TwoUrls.policy TwoUrls.script [TwoUrls.first, TwoUrls.second]
      (NoneAndOne.batch.run {}).1.results (NoneAndOne.batch.run {}).1.started
      (Engine.collect .empty TwoUrls.rest.finished).1 TwoUrls.rest.started ∧
    (NoneAndOne.batch.run {}).1.started.count TwoUrls.first = 1 ∧
    TwoUrls.rest.started.count TwoUrls.first = 2 :=
  ⟨looser_policy_improves NoneAndOne.loosens NoneAndOne.leaves_batch NoneAndOne.leaves_rest,
    rfl, rfl⟩

end MarketData
