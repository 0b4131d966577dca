import Mathlib.Data.List.TakeWhile
import MarketData.Proofs.Batch.Course

/-! What the entry of a URL tells about the attempts at it. The retry policy looks at the end of a
transfer while its handle is in flight, and the entry is made from the body that was taken out
later; both judge alike (`Judged`). So an entry that the policy would retry was recorded after the
last retry, and any other at the first attempt that is not to be retried (`Policy.Tells`). -/

namespace MarketData

open Drive

namespace Json

/-- An ASCII character that leaves a mark. White space has none in its bytes. -/
def isPrinted (b : UInt8) : Bool := 0x20 < b && b < 0x7F

theorem ne_byte_of_isPrinted {b : UInt8} (hb : isPrinted b = false) (c : Char)
    (hc : isPrinted (byte c) = true) : (b == byte c) = false := by
  refine Bool.eq_false_iff.mpr fun heq => ?_
  rw [beq_iff_eq.mp heq, hc] at hb
  contradiction

theorem isDigit_of_isPrinted {b : UInt8} (hb : isPrinted b = false) : isDigit b = false := by
  refine Bool.eq_false_iff.mpr fun hdigit => ?_
  have hzero : (byte '0').toNat = 48 := by decide
  have hnine : (byte '9').toNat = 57 := by decide
  simp only [isDigit, Bool.and_eq_true, decide_eq_true_eq, UInt8.le_iff_toNat_le, hzero,
    hnine] at hdigit
  have hprinted : isPrinted b = true := by
    simp only [isPrinted, Bool.and_eq_true, decide_eq_true_eq, UInt8.lt_iff_toNat_lt,
      UInt8.reduceToNat]
    omega
  rw [hprinted] at hb
  contradiction

/-- Every value starts with a printed character. -/
theorem Value.read_unprinted {rest : Bytes} (h : ∀ b ∈ rest, isPrinted b = false) (depth : Nat) :
    ∃ halt, Value.read depth rest = .error halt := by
  have hread : ∀ inner, ∃ halt, Value.readWith inner rest = .error halt := by
    intro inner
    unfold Value.readWith
    cases hskip : skipBlanks rest with
    | nil => exact ⟨_, rfl⟩
    | cons b r =>
      have hmem : b ∈ skipBlanks rest := hskip ▸ List.mem_cons_self
      have hb : isPrinted b = false := h b ((List.dropWhile_suffix _).mem hmem)
      have hne := ne_byte_of_isPrinted hb
      simp only [hne 'n' (by decide), hne 't' (by decide), hne 'f' (by decide),
        hne '-' (by decide), hne '"' (by decide), hne '[' (by decide), hne '{' (by decide),
        isDigit_of_isPrinted hb, Bool.false_eq_true, if_false]
      exact ⟨_, rfl⟩
  cases depth with
  | zero => exact hread none
  | succ depth => exact hread _

/-- White space alone is no document. -/
theorem Value.parse_unprinted {body : Bytes} (h : ∀ b ∈ body, isPrinted b = false) :
    ∃ e, Value.parse body = .error e := by
  obtain ⟨halt, hread⟩ := Value.read_unprinted h Value.deepest
  rw [Value.parse, Json.parse, hread]
  exact ⟨_, rfl⟩

end Json

/-! ## One transfer -/

/-- Whether the policy retries what was recorded: an empty response, or an error status. -/
def Policy.retriesEntry (policy : Policy) : Entry → Bool
  | .ok _ => false
  | .error .emptyResponse => policy.retryEmpty
  | .error e => e.status?.any policy.retriesStatus

/-- The ways in which a transfer may end: how the policy sees them, and what is recorded. -/
inductive Judged : Outcome → Entry → Prop
  | empty : Judged (.received true) (.error .emptyResponse)
  | document : Judged (.received false) (.ok document)
  | malformed : Judged (.received false) (.error (.malformed e))
  | status : fault.status? = some s → Judged (.httpError s) (.error (.transport fault))
  | transport : fault.status? = none → Judged .transportError (.error (.transport fault))

namespace Judged

variable {o : Outcome} {entry : Entry}

theorem isRetryable_eq (h : Judged o entry) (policy : Policy) :
    policy.isRetryable o = policy.retriesEntry entry := by
  cases h with
  | empty | document | malformed => rfl
  | status hstatus | transport hstatus =>
    simp [Policy.isRetryable, Policy.retriesEntry, FetchError.status?, hstatus]

theorem emptyResponse_iff (h : Judged o entry) :
    entry = .error .emptyResponse ↔ o = .received true := by
  cases h <;> simp

theorem status_iff (h : Judged o entry) {s : Status} :
    (∃ e, entry = .error e ∧ e.status? = some s) ↔ o = .httpError s := by
  cases h with
  | empty | document | malformed => simp [FetchError.status?]
  | status hstatus | transport hstatus => simp [FetchError.status?, hstatus]

end Judged

namespace Transfer

variable {t : Transfer}

/-- What is recorded after this transfer into an empty handle. -/
def entry (t : Transfer) : Entry := Entry.ofTransfer t.body t.ending

theorem judged (t : Transfer) : Judged t.outcome t.entry := by
  rw [outcome, entry]
  cases t.ending with
  | done =>
    cases t.body with
    | nil => exact .empty
    | cons b rest =>
      rw [Entry.ofTransfer, Entry.ofBody, List.isEmpty_cons]
      cases Json.Value.parse (b :: rest) with
      | ok document => exact .document
      | error e => exact .malformed
  | failed fault =>
    simp only [Entry.ofTransfer]
    cases hstatus : fault.status? with
    | none => exact .transport hstatus
    | some s => exact .status hstatus

/-- The body arrived completely, and nothing in it is printed: it is white space, say. -/
structure IsBlank (t : Transfer) : Prop where
  done : t.ending = .done
  ne_nil : t.body ≠ []
  blank : ∀ b ∈ t.body, Json.isPrinted b = false

namespace IsBlank

variable (h : t.IsBlank)
include h

theorem entry : ∃ e, t.entry = .error (.malformed e) := by
  obtain ⟨e, hparse⟩ := Json.Value.parse_unprinted h.blank
  have hempty : t.body.isEmpty = false := List.isEmpty_eq_false_iff.mpr h.ne_nil
  exact ⟨e, by simp [Transfer.entry, h.done, Entry.ofTransfer, Entry.ofBody, hempty, hparse]⟩

theorem not_retryable (policy : Policy) : policy.isRetryable t.outcome = false := by
  obtain ⟨e, hentry⟩ := h.entry
  rw [t.judged.isRetryable_eq, hentry]
  rfl

end IsBlank

end Transfer

/-! ## All attempts at a URL -/

/-- What an entry tells about the attempts at its URL, the last of which was recorded. -/
structure Policy.Tells (policy : Policy) (earlier : List Transfer) (last : Transfer)
    (entry : Entry) : Prop where
  recorded : entry = last.entry
  /-- What the policy would retry was recorded when no retry was left. -/
  exhausted : policy.retriesEntry entry = true →
    (earlier ++ [last]).length = policy.maxRetries.toNat + 1 ∧
    ∀ t ∈ earlier ++ [last], policy.isRetryable t.outcome = true
  /-- Anything else was recorded as soon as an attempt brought it. -/
  settled : policy.retriesEntry entry = false →
    (∀ t ∈ earlier, policy.isRetryable t.outcome = true) ∧ policy.isRetryable last.outcome = false
  empty_iff : entry = .error .emptyResponse ↔ last.outcome = .received true
  status_iff : ∀ s, (∃ e, entry = .error e ∧ e.status? = some s) ↔ last.outcome = .httpError s
  blank : (∀ t ∈ earlier, ¬ t.IsBlank) ∧ (last.IsBlank → ∃ e, entry = .error (.malformed e))

namespace Policy

variable {policy : Policy} {earlier ts : List Transfer} {last t : Transfer} {url : Url}

theorem tells_of_finalize (hearlier : policy.Insists earlier)
    (hlast : policy.decide last.outcome earlier.length = .finalize) :
    policy.Tells earlier last last.entry where
  recorded := rfl
  exhausted := by
    intro hretries
    rw [← last.judged.isRetryable_eq] at hretries
    refine ⟨?_, List.forall_mem_append.mpr ⟨fun _ => hearlier.isRetryable, by simpa⟩⟩
    have hleast : policy.maxRetries.toNat ≤ earlier.length :=
      (decide_eq_finalize_iff.mp hlast).resolve_right (by simp [hretries])
    rw [List.length_append, List.length_singleton, Nat.le_antisymm hearlier.length_le hleast]
  settled := by
    intro hretries
    rw [← last.judged.isRetryable_eq] at hretries
    exact ⟨fun _ => hearlier.isRetryable, hretries⟩
  empty_iff := last.judged.emptyResponse_iff
  status_iff := fun _ => last.judged.status_iff
  blank := by
    refine ⟨fun t ht hblank => ?_, fun hblank => hblank.entry⟩
    have hretryable := hearlier.isRetryable ht
    rw [hblank.not_retryable] at hretryable
    contradiction

/-- The retries that are reported after these attempts at a URL. -/
def retries (policy : Policy) (url : Url) (ts : List Transfer) : List Retry :=
  ts.mapIdx fun i t => ⟨url, i + 1, t.outcome, policy.pause⟩

theorem retries_snoc : policy.retries url (ts ++ [t]) =
    policy.retries url ts ++ [⟨url, ts.length + 1, t.outcome, policy.pause⟩] :=
  List.mapIdx_concat

end Policy

namespace Drive

variable {policy : Policy} {maxConnections : Nat} {handles : List Handle} {seen seen' : History}
  {d d' : Drive}

/-- For each URL those attempts are reported as retries that another one was started after. -/
def Reported (policy : Policy) (seen : History) (d : Drive) : Prop :=
  ∀ url, d.retried.filter (·.url = url) =
    policy.retries url ((attemptsAt url seen).take (d.started.count url - 1))

theorem Move.reported (m : Move policy seen d seen' d') (b : Books policy handles seen d)
    (h : Reported policy seen d) : Reported policy seen' d' := by
  intro url
  have hold := h url
  cases m with
  | @launch first rest hq =>
    obtain ⟨-, hts, -, hrequests⟩ := b.fits_queued hq
    by_cases hurl : url = first.url
    · subst hurl
      rw [hts] at hold ⊢
      simpa using hold
    · rw [count_snoc_of_ne hurl]
      exact hold
  | @retry before flight after t ha hdecide =>
    obtain ⟨hbuffer, -, hused, hrequests⟩ := b.fits_flying ha
    by_cases hurl : url = flight.handle.url
    · subst hurl
      simp only at hused hrequests
      rw [hrequests, Nat.add_sub_cancel, List.take_length] at hold
      rw [attemptsAt_snoc_self, count_snoc_self, hrequests, Nat.add_sub_cancel,
        List.take_of_length_le (by simp), Policy.retries_snoc, List.filter_append, hold, hused,
        Handle.receive_outcome_of_empty hbuffer]
      simp
    · rw [attemptsAt_snoc_of_ne hurl, count_snoc_of_ne hurl, List.filter_append, hold]
      simp [Ne.symm hurl]
  | @finish before flight after t ha hdecide =>
    obtain ⟨-, -, -, hrequests⟩ := b.fits_flying ha
    by_cases hurl : url = flight.handle.url
    · subst hurl
      simp only at hrequests
      rw [hrequests, Nat.add_sub_cancel, List.take_length] at hold
      rw [attemptsAt_snoc_self, hrequests, Nat.add_sub_cancel, List.take_left, hold]
    · rw [attemptsAt_snoc_of_ne hurl]
      exact hold

theorem Reaches.reported (hid : (handles.map (·.id)).Nodup) (hurl : (handles.map (·.url)).Nodup)
    (hempty : ∀ h ∈ handles, h.buffer = []) (h : Reaches policy maxConnections handles seen d) :
    Reported policy seen d := by
  have hboth := h.invariant
    (P := fun seen d => Books policy handles seen d ∧ Reported policy seen d)
    (fun m hkept => ⟨hkept.1.move hid hurl m, m.reported hkept.1 hkept.2⟩)
    ⟨.start hempty, fun _ => rfl⟩
  exact hboth.2

end Drive

/-! ## A batch -/

namespace Batch

variable {b : Batch} {e : Engine} {url : Url}

/-- After the attempts of the loop, a URL that could get a handle has an entry that tells about
those at it. -/
theorem run_tells (c : e.pool.Custody []) {seen : History}
    (hreach : Reaches b.policy b.maxConnections (b.acquired e).handles seen (b.loop e).1)
    (ha : (b.loop e).1.active = []) (hm : url ∈ b.urls.items)
    (hmake : b.env.refuse b.config url = none) : ∃ earlier last entry,
      attemptsAt url seen = earlier ++ [last] ∧
      (b.run e).1.results.entries.get? url = some entry ∧
      (b.run e).1.started.count url = (earlier ++ [last]).length ∧
      (b.run e).1.retried.filter (·.url = url) = b.policy.retries url earlier ∧
      b.policy.Tells earlier last entry := by
  have hacquiring := b.acquiring c
  have hreported := hreach.reported hacquiring.custody.ids_nodup hacquiring.custody.urls_nodup
    hacquiring.emptied url
  have hcount := started_count c hreach ha url
  obtain ⟨entry, hget, hends⟩ := run_ends c hreach hm
  generalize attemptsAt url seen = attempts at hreported hcount hends
  cases hends with
  | refused hrefuse =>
    rw [hmake] at hrefuse
    contradiction
  | concluded hconcludes =>
    cases hconcludes with
    | @intro earlier last hearlier hlast =>
      refine ⟨earlier, last, _, rfl, hget, hcount, ?_, Policy.tells_of_finalize hearlier hlast⟩
      rw [← run_started, hcount, List.length_append, List.length_singleton, Nat.add_sub_cancel,
        List.take_left] at hreported
      exact hreported

end Batch

/-- **What a failure tells.** If the set-up succeeded and the thread can drive transfers, a fetch
goes through a course of exchanges with the network, each answered after all before it, to handles
built from the configuration of this batch or of an earlier one. Each URL that a handle could be
made for has an entry, and its attempts in that course are as many as were started for it and, but
for the last, as were reported as retries. If the entry is one that the policy retries, these are as
many as the policy allows and all of them were retryable; any other entry was recorded at the first
attempt that was not retryable. The entry is an empty response exactly if the last attempt was
received empty, and has an error status exactly if that attempt ended with it; a body of white space
only is recorded as malformed, and not retried. -/
theorem failure_tells_attempts (setup : Setup) (log : List String) (batches : List Batch)
    (env : Environment) (footing : Footing) (urls : UrlSet) (maxConnections : Nat)
    (policy : Policy) (config : TransportConfig)
    (hsetup : (setup.install env.build {}).config = .ok config)
    (hfooting : footing.obstacle? = none) :
    let e : Engine := { setup, pool := (Engine.after {} batches).pool, log }
    let r := e.fetch env footing urls maxConnections policy
    ∃ held seen, (∀ url, held url ∈ config :: batches.map (·.config)) ∧
      env.network.Course held log seen r.2.log ∧
      ∀ url ∈ urls.items, env.refuse config url = none → ∃ earlier last entry,
        attemptsAt url seen = earlier ++ [last] ∧
        r.1.results.entries.get? url = some entry ∧
        r.1.started.count url = (earlier ++ [last]).length ∧
        r.1.retried.filter (·.url = url) = policy.retries url earlier ∧
        policy.Tells earlier last entry := by
  intro e r
  cases hurls : urls.isEmpty with
  | true =>
    have hr : r = ({ results := .empty }, e) := Engine.fetch_of_isEmpty hurls
    rw [hr, List.isEmpty_iff.mp hurls]
    exact ⟨fun _ => config, [], fun _ => List.mem_cons_self, .start, by simp⟩
  | false =>
    have hr : r = Batch.run { env, config, urls, maxConnections, policy } (e.ready env) :=
      Engine.fetch_of_free hurls hsetup hfooting
    have c : e.pool.Custody [] := Engine.after_custody .pending [] batches
    obtain ⟨seen, hreach, hcourse, ha⟩ :=
      Batch.loop_course (b := { env, config, urls, maxConnections, policy })
        (e := e.ready env) c
    rw [hr]
    refine ⟨_, seen, Batch.held_built c List.mem_cons_self ?_, hcourse,
      fun url hm hmake => Batch.run_tells c hreach ha hm hmake⟩
    exact Engine.after_built .pending [] batches fun b hb =>
      List.mem_cons_of_mem _ (List.mem_map_of_mem hb)

/-! One URL that brings nothing at each attempt, and one that brings blanks after part of a body and
a status that is retried. -/
namespace NothingAndBlanks

def nothing : Url := ⟨"http://a/"⟩

def blanks : Url := ⟨"http://b/"⟩

def script (url : Url) (n : Nat) : Transfer :=
  if url = nothing then ⟨[], .done⟩
  else if n = 0 then ⟨[[0x7B]], .failed (.errorStatus 429 "X" "http://b/")⟩
  else ⟨[[0x20], [0x0A]], .done⟩

def env : Environment where
  network := .ofScript script

def urls : UrlSet := ⟨[nothing, blanks], by decide⟩

def policy : Policy where
  maxRetries := 1
  retriedStatuses := SortedMap.insert ∅ 429 ()
  retryEmpty := true

def fetched : BatchRun × Engine := Engine.fetch env .free urls 1 policy {}

theorem fetched_nothing :
    fetched.1.results.entries.get? nothing = some (.error .emptyResponse) := rfl

theorem fetched_blanks : fetched.1.results.entries.get? blanks =
    some (.error (.malformed ⟨.endInValue, 2, 0⟩)) := rfl

end NothingAndBlanks

open NothingAndBlanks

theorem failure_tells_attempts_nothing : ∃ held seen,
    env.network.Course held [] seen fetched.2.log ∧
    fetched.1.results.entries.get? nothing = some (.error .emptyResponse) ∧
    fetched.1.started.count nothing = 2 ∧
    ∃ (earlier : List Transfer) (last : Transfer), attemptsAt blanks seen = earlier ++ [last] ∧
      fetched.1.retried.filter (·.url = blanks) = policy.retries blanks earlier ∧
      (∀ t ∈ earlier, policy.isRetryable t.outcome = true) ∧
      policy.isRetryable last.outcome = false := by
  obtain ⟨held, seen, -, hcourse, htold⟩ :=
    failure_tells_attempts .pending [] [] env .free urls 1 policy {} rfl rfl
  obtain ⟨_, _, entry, -, hget, hcount, -, htells⟩ := htold nothing (by decide) rfl
  obtain rfl : .error .emptyResponse = entry := Option.some.inj (fetched_nothing.symm.trans hget)
  obtain ⟨earlier, last, entry', hattempts, hget', -, hretried, htells'⟩ :=
    htold blanks (by decide) rfl
  obtain rfl := Option.some.inj (fetched_blanks.symm.trans hget')
  obtain ⟨hearlier, hlast⟩ := htells'.settled rfl
  exact ⟨held, seen, hcourse, hget, hcount.trans (htells.exhausted rfl).1, earlier, last,
    hattempts, hretried, hearlier, hlast⟩

end MarketData
