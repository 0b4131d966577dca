import Mathlib.Data.Nat.Find
import MarketData.Batch.Results

/-! Attempts at one URL, taken alone. A policy that sees the transfers of a URL one after the other
goes on as long as it decides for a retry (`Policy.Concludes`). Under a script, which fixes the n-th
transfer, it stops at `Policy.lastAttempt`, and what there is for the URL is `Policy.entry`. -/

namespace MarketData

/-! ## Transfers into an empty handle -/

/-- How a retry policy sees a transfer whose handle was empty. -/
def Transfer.outcome (t : Transfer) : Outcome :=
  match t.ending with
  | .done => .received t.body.isEmpty
  | .failed fault => fault.status?.elim .transportError .httpError

namespace Handle

variable {h : Handle} {url : Url} {chunks : List Bytes} {t : Transfer}

@[simp] theorem clear_id : h.clear.id = h.id := rfl
@[simp] theorem clear_url : h.clear.url = h.url := rfl
@[simp] theorem clear_buffer : h.clear.buffer = [] := rfl
@[simp] theorem clear_clear : h.clear.clear = h.clear := rfl

@[simp] theorem rebind_id : (h.rebind url).id = h.id := rfl
@[simp] theorem rebind_url : (h.rebind url).url = url := rfl
@[simp] theorem rebind_buffer : (h.rebind url).buffer = [] := rfl

@[simp] theorem receive_id : (h.receive chunks).id = h.id := rfl
@[simp] theorem receive_url : (h.receive chunks).url = h.url := rfl
@[simp] theorem receive_clear : (h.receive chunks).clear = h.clear := rfl

theorem clear_eq_self (hb : h.buffer = []) : h.clear = h := by
  cases h
  cases hb
  rfl

theorem receive_buffer : (h.receive chunks).buffer = h.buffer ++ chunks.flatten := by
  suffices ∀ b : Bytes, chunks.foldl (· ++ ·) b = b ++ chunks.flatten from this h.buffer
  induction chunks with
  | nil => simp
  | cons c chunks ih => intro b; rw [List.foldl_cons, ih, List.flatten_cons, List.append_assoc]

theorem receive_buffer_of_empty (hb : h.buffer = []) : (h.receive t.chunks).buffer = t.body := by
  rw [receive_buffer, hb, List.nil_append, Transfer.body]

theorem receive_outcome_of_empty (hb : h.buffer = []) :
    (h.receive t.chunks).outcome t.ending = t.outcome := by
  have hbody := receive_buffer_of_empty (t := t) hb
  unfold outcome Transfer.outcome
  cases t.ending with
  | done => simp only [hbody]
  | failed => rfl

end Handle

/-! ## Going on and stopping -/

namespace Policy

variable {policy : Policy} {o : Outcome} {n : Nat} {ts : List Transfer} {t : Transfer}

theorem decide_eq_retry_iff :
    policy.decide o n = .retry ↔ n < policy.maxRetries.toNat ∧ policy.isRetryable o = true := by
  unfold decide
  split
  · simp; omega
  · split <;> simp_all

theorem decide_eq_finalize_iff :
    policy.decide o n = .finalize ↔
      policy.maxRetries.toNat ≤ n ∨ policy.isRetryable o = false := by
  unfold decide
  split
  · simp_all
  · split <;> simp_all

/-- Each of these transfers, in its turn, is to be tried again. -/
def Insists (policy : Policy) (ts : List Transfer) : Prop :=
  ∀ i t, ts[i]? = some t → policy.decide t.outcome i = .retry

theorem Insists.nil : policy.Insists [] := fun _ _ h => by simp at h

theorem Insists.append (h : policy.Insists ts) (ht : policy.decide t.outcome ts.length = .retry) :
    policy.Insists (ts ++ [t]) := by
  intro i t' hi
  rcases Nat.lt_or_ge i ts.length with hlt | hge
  · exact h i t' (by rwa [List.getElem?_append_left hlt] at hi)
  · obtain ⟨hi0, rfl⟩ : i - ts.length = 0 ∧ t = t' := by
      rw [List.getElem?_append_right hge, List.getElem?_singleton] at hi
      split at hi <;> simp_all
    rwa [show i = ts.length by omega]

theorem Insists.length_le (h : policy.Insists ts) : ts.length ≤ policy.maxRetries.toNat := by
  rcases Nat.eq_zero_or_pos ts.length with h0 | hpos
  · omega
  · have hlast := h (ts.length - 1) _ (List.getElem?_eq_getElem (by omega))
    have := (decide_eq_retry_iff.mp hlast).1
    omega

theorem Insists.isRetryable (h : policy.Insists ts) (ht : t ∈ ts) :
    policy.isRetryable t.outcome = true := by
  obtain ⟨i, hi⟩ := List.mem_iff_getElem?.mp ht
  exact (decide_eq_retry_iff.mp (h i t hi)).2

/-- Of the attempts that a policy makes it retries every one but the last. -/
theorem retry_iff_of_finalize (hts : policy.Insists ts)
    (hlast : policy.decide t.outcome ts.length = .finalize) (i : Nat) (t' : Transfer)
    (hi : (ts ++ [t])[i]? = some t') :
    policy.decide t'.outcome i = .retry ↔ i + 1 < (ts ++ [t]).length := by
  rw [List.length_append, List.length_singleton, Nat.add_lt_add_iff_right]
  constructor
  · intro hretry
    by_contra hge
    obtain ⟨hbound, -⟩ := List.getElem?_eq_some_iff.mp hi
    rw [List.length_append, List.length_singleton] at hbound
    obtain rfl : i = ts.length := by omega
    rw [List.getElem?_concat_length] at hi
    cases hi
    rw [hlast] at hretry
    contradiction
  · intro hlt
    rw [List.getElem?_append_left hlt] at hi
    exact hts i t' hi

/-- The number of the attempt after which a URL is left alone, if the n-th brings `reply n`: the
first that is no longer retryable, or the one after the last retry. -/
def lastAttempt (policy : Policy) (reply : Nat → Transfer) : Nat :=
  Nat.find (p := fun n =>
    n = policy.maxRetries.toNat ∨ policy.isRetryable (reply n).outcome = false) ⟨_, .inl rfl⟩

theorem lastAttempt_stops (policy : Policy) (reply : Nat → Transfer) :
    policy.lastAttempt reply = policy.maxRetries.toNat ∨
      policy.isRetryable (reply (policy.lastAttempt reply)).outcome = false :=
  Nat.find_spec (p := fun n =>
    n = policy.maxRetries.toNat ∨ policy.isRetryable (reply n).outcome = false) _

theorem lastAttempt_le {reply : Nat → Transfer}
    (h : n = policy.maxRetries.toNat ∨ policy.isRetryable (reply n).outcome = false) :
    policy.lastAttempt reply ≤ n := Nat.find_min' _ h

/-- What there is for a URL in the end. -/
def entry (policy : Policy) (reply : Nat → Transfer) : Entry :=
  let last := reply (policy.lastAttempt reply)
  Entry.ofTransfer last.body last.ending

theorem lastAttempt_eq {reply : Nat → Transfer}
    (hearlier : ∀ i < n, policy.decide (reply i).outcome i = .retry)
    (hlast : policy.decide (reply n).outcome n = .finalize) : policy.lastAttempt reply = n := by
  refine (Nat.find_eq_iff _).mpr ⟨?_, fun i hi => ?_⟩
  · refine (decide_eq_finalize_iff.mp hlast).imp_left fun hge => ?_
    rcases Nat.eq_zero_or_pos n with rfl | hpos
    · omega
    · have := (decide_eq_retry_iff.mp (hearlier (n - 1) (by omega))).1
      omega
  · obtain ⟨hlt, hretry⟩ := decide_eq_retry_iff.mp (hearlier i hi)
    simp [hretry, Nat.ne_of_lt hlt]

/-- These are all the attempts that the policy makes at a URL, and the entry is what the last of
them brought. -/
inductive Concludes (policy : Policy) : List Transfer → Entry → Prop
  | intro : policy.Insists earlier → policy.decide last.outcome earlier.length = .finalize →
    Concludes policy (earlier ++ [last]) (Entry.ofTransfer last.body last.ending)

/-- Replies leave no choice of how many attempts are made and what comes of them. -/
theorem Concludes.of_replies {reply : Nat → Transfer} {entry : Entry}
    (h : policy.Concludes ts entry) (hreply : ∀ i t, ts[i]? = some t → t = reply i) :
    ts.length = policy.lastAttempt reply + 1 ∧ entry = policy.entry reply := by
  cases h with
  | @intro earlier last hearlier hlast =>
    obtain rfl : last = reply earlier.length := hreply _ _ (by simp)
    have hn : policy.lastAttempt reply = earlier.length := by
      refine lastAttempt_eq (fun i hi => ?_) hlast
      have hget := hreply i earlier[i] (by rw [List.getElem?_append_left hi]; simp)
      exact hget ▸ hearlier i _ (List.getElem?_eq_getElem hi)
    refine ⟨by rw [hn]; simp, ?_⟩
    rw [Policy.entry, hn]

end Policy

end MarketData
