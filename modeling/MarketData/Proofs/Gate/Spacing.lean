import MarketData.Proofs.Gate.Safety

/-! Attempts at one URL in time. A transfer that was tried before goes back into flight behind the
pause of the policy (`Drive.Reaches.pausing`), and it is there since no attempt at its URL was under
way (`Course.Paced`); a later batch starts when the gate has let the pause of its own policy pass.
Both together keep the attempts at a URL apart over all batches that go through a gate
(`attempts_spaced`). -/

namespace MarketData

/-! ## Pauses of the loop -/

namespace Drive

variable {policy : Policy} {maxConnections : Nat} {handles : List Handle} {seen seen' : History}
  {d d' : Drive}

/-- What is in flight for a URL that was tried before is sent after the pause of the policy. -/
def Pausing (policy : Policy) (seen : History) (d : Drive) : Prop :=
  ∀ flight ∈ d.active, attemptsAt flight.handle.url seen ≠ [] → flight.pause = policy.pause

/-- What else is in flight is for another URL. -/
theorem Books.url_ne_of_active (hurl : (handles.map (·.url)).Nodup)
    (b : Books policy handles seen d) {before after : List Flight} {flight other : Flight}
    (ha : d.active = before ++ flight :: after) (hother : other ∈ before ++ after) :
    other.handle.url ≠ flight.handle.url := by
  refine ne_of_nodup_map (p := (flight.handle, .flying)) (q := (other.handle, .flying))
    (places_of_active ha) ((b.perm_map (·.url) fun _ => rfl).nodup_iff.mpr hurl) ?_
  simp only [places, List.mem_append, List.mem_map]
  exact .inl (.inr ⟨other, List.mem_append.mp hother, rfl⟩)

theorem Books.url_ne_of_eraseIdx (hurl : (handles.map (·.url)).Nodup)
    (b : Books policy handles seen d) {index : Nat} {flight other : Flight}
    (hflight : d.active[index]? = some flight) (hother : other ∈ d.active.eraseIdx index) :
    other.handle.url ≠ flight.handle.url := by
  rw [List.eraseIdx_eq_take_drop_succ] at hother
  exact b.url_ne_of_active hurl (split_of_getElem? hflight) hother

theorem Move.pausing (hurl : (handles.map (·.url)).Nodup) (m : Move policy seen d seen' d')
    (b : Books policy handles seen d) (h : Pausing policy seen d) : Pausing policy seen' d' := by
  cases m with
  | @launch first rest hq =>
    obtain ⟨-, hnone, -⟩ := b.fits_queued hq
    refine List.forall_mem_append.mpr ⟨h, List.forall_mem_singleton.mpr fun htried => ?_⟩
    exact absurd hnone htried
  | @retry before flight after t ha hdecide =>
    refine List.forall_mem_append.mpr ⟨fun other hother htried => ?_,
      List.forall_mem_singleton.mpr fun _ => rfl⟩
    rw [attemptsAt_snoc_of_ne (b.url_ne_of_active hurl ha hother)] at htried
    exact h other (ha ▸ by simp at hother ⊢; tauto) htried
  | @finish before flight after t ha hdecide =>
    intro other hother htried
    rw [attemptsAt_snoc_of_ne (b.url_ne_of_active hurl ha hother)] at htried
    exact h other (ha ▸ by simp at hother ⊢; tauto) htried

theorem Reaches.pausing (hid : (handles.map (·.id)).Nodup) (hurl : (handles.map (·.url)).Nodup)
    (hempty : ∀ h ∈ handles, h.buffer = []) (h : Reaches policy maxConnections handles seen d) :
    Pausing policy seen d := by
  have hboth := h.invariant
    (P := fun seen d => Books policy handles seen d ∧ Pausing policy seen d)
    (fun m hkept => ⟨hkept.1.move hid hurl m, m.pausing hurl hkept.1 hkept.2⟩)
    ⟨.start hempty, fun _ hmem => by simp at hmem⟩
  exact hboth.2

/-- Looking for room adds to what is in flight. -/
theorem active_prefix_refill (maxConnections : Nat) (d : Drive) :
    d.active <+: (d.refill maxConnections).active := List.prefix_append ..

theorem active_prefix_settle (policy : Policy) (h : Handle) (ending : Ending) (d : Drive) :
    d.active <+: (d.settle policy h ending).active := by
  unfold settle
  simp only
  split
  · exact List.prefix_append ..
  · exact List.prefix_refl _

/-- A transfer that ends leaves its place, and what is new in flight comes last. -/
theorem active_prefix_complete (policy : Policy) (maxConnections : Nat) {index : Nat}
    {flight : Flight} (hflight : d.active[index]? = some flight) (t : Transfer) :
    d.active.eraseIdx index <+: (d.complete policy maxConnections index t).active := by
  unfold complete
  rw [hflight]
  exact (active_prefix_settle policy _ _ { d with active := d.active.eraseIdx index }).trans
    (active_prefix_refill ..)

end Drive

/-! ## The loop in time -/

/-- If both are attempts at one URL, `b` was sent at least `pause` after `a` had ended. -/
def Attempt.Spaced (pause : Milliseconds) (a b : Attempt) : Prop :=
  a.url = b.url → a.ended + pause ≤ b.sent

namespace Course

/-- A transfer is in flight since a time when all these attempts at its URL had ended. -/
def Rested (attempts : List Attempt) (flight : Flight) (since : Instant) : Prop :=
  ∀ a ∈ attempts, a.url = flight.handle.url → a.ended ≤ since

structure Paced (policy : Policy) (c : Course) : Prop where
  launched : List.Forall₂ (Rested c.attempts) c.loop.active c.launched
  attempts : c.attempts.Pairwise (Attempt.Spaced policy.pause)

section

variable {policy : Policy} {maxConnections : Nat} {handles : List Handle} {urls : List Url}
  {begun now : Instant} {c c' : Course} {loop : Drive} {active : List Flight}
  {launched : List Instant} {attempts : List Attempt} {index : Nat} {flight : Flight}
  {since : Instant}

theorem rested_of_getElem? (h : List.Forall₂ (Rested attempts) active launched)
    (hflight : active[index]? = some flight) (hsince : launched[index]? = some since) :
    Rested attempts flight since :=
  (List.forall₂_iff_zip.mp h).2
    (List.mem_of_getElem? (List.getElem?_zip_eq_some.mpr ⟨hflight, hsince⟩))

theorem exists_since {R : Flight → Instant → Prop} (h : List.Forall₂ R active launched)
    (hflight : active[index]? = some flight) : ∃ since, launched[index]? = some since := by
  obtain ⟨hlt, -⟩ := List.getElem?_eq_some_iff.mp hflight
  exact ⟨_, List.getElem?_eq_getElem (h.length_eq ▸ hlt)⟩

/-- Transfers for other URLs stay rested when an attempt ends. -/
theorem rested_eraseIdx (h : List.Forall₂ (Rested attempts) active launched) {a : Attempt}
    (hurl : ∀ other ∈ active.eraseIdx index, other.handle.url ≠ a.url) :
    List.Forall₂ (Rested (attempts ++ [a])) (active.eraseIdx index) (launched.eraseIdx index) := by
  have hrest : List.Forall₂ (Rested attempts) (active.eraseIdx index)
      (launched.eraseIdx index) := by
    rw [List.eraseIdx_eq_take_drop_succ, List.eraseIdx_eq_take_drop_succ]
    exact List.rel_append (List.forall₂_take _ h) (List.forall₂_drop _ h)
  refine ((List.forall₂_and_left _ _).mpr ⟨hurl, hrest⟩).imp fun other since hother => ?_
  refine List.forall_mem_append.mpr ⟨hother.2, List.forall_mem_singleton.mpr fun hsame => ?_⟩
  exact absurd hsame.symm hother.1

/-- What is new in flight is there since all attempts have ended. -/
theorem rested_resume (h : List.Forall₂ (Rested attempts) active launched)
    (hactive : active <+: loop.active) (hended : ∀ a ∈ attempts, a.ended ≤ now) :
    List.Forall₂ (Rested attempts) loop.active (resume loop launched attempts now).launched := by
  obtain ⟨fresh, hfresh⟩ := hactive
  have hlength : loop.active.length - launched.length = fresh.length := by
    rw [← hfresh, List.length_append, h.length_eq, Nat.add_sub_cancel_left]
  rw [resume, hlength, ← hfresh]
  refine List.rel_append h (List.forall₂_iff_zip.mpr ⟨List.length_replicate.symm, ?_⟩)
  intro flight since hmem a ha _
  rw [List.eq_of_mem_replicate (List.of_mem_zip hmem).2]
  exact hended a ha

theorem Paced.start : Paced policy (Course.start maxConnections handles now) where
  launched := by
    have hnone : List.Forall₂ (Rested []) [] [] := .nil
    exact rested_resume hnone List.nil_prefix fun _ hmem => by contradiction
  attempts := .nil

/-- A transfer in flight is sent when the pause has passed since all attempts at its URL. -/
theorem Paced.le_sent (h : Paced policy c) (hlent : Lent urls handles)
    (hlawful : Lawful policy maxConnections handles begun now c)
    (hflight : c.loop.active[index]? = some flight) (hsince : c.launched[index]? = some since)
    {a : Attempt} (ha : a ∈ c.attempts) (hurl : a.url = flight.handle.url) :
    a.ended + policy.pause ≤ since + flight.pause := by
  have hpausing := hlawful.reaches.pausing hlent.ids_nodup hlent.urls_nodup hlent.emptied
  have htried : (flight.handle.url, a.transfer) ∈ c.history :=
    List.mem_map.mpr ⟨a, ha, by rw [hurl]⟩
  have hpause : flight.pause = policy.pause := hpausing flight (List.mem_of_getElem? hflight)
    (List.ne_nil_of_mem (Drive.mem_attemptsAt.mpr htried))
  rw [hpause]
  exact Nat.add_le_add_right (rested_of_getElem? h.launched hflight hsince a ha hurl) _

theorem Paced.turn (h : Paced policy c) (hlent : Lent urls handles)
    (hlawful : Lawful policy maxConnections handles begun now c)
    (hturn : Turn policy maxConnections now c c') : Paced policy c' := by
  have hended : ∀ a ∈ c.attempts, a.ended ≤ now := fun a ha => (hlawful.attempts a ha).2.2
  cases hturn with
  | tick => exact ⟨rested_resume h.launched (Drive.active_prefix_refill ..) hended, h.attempts⟩
  | @land index flight since sent t hflight hsince hpause hsent =>
    have hbooks := hlawful.reaches.books hlent.ids_nodup hlent.urls_nodup hlent.emptied
    constructor
    · refine rested_resume (rested_eraseIdx h.launched fun other hother => ?_)
        (Drive.active_prefix_complete policy maxConnections hflight t)
        (List.forall_mem_append.mpr ⟨hended, List.forall_mem_singleton.mpr (Nat.le_refl now)⟩)
      exact hbooks.url_ne_of_eraseIdx hlent.urls_nodup hflight hother
    · refine List.pairwise_append.mpr ⟨h.attempts, List.pairwise_singleton .., ?_⟩
      intro a ha b hb hurl
      obtain rfl := List.mem_singleton.mp hb
      exact (h.le_sent hlent hlawful hflight hsince ha hurl).trans hpause

end

end Course

/-! ## The gate in time -/

namespace Traffic

/-- All dispatches that have started are paced. -/
structure Paced (s : Traffic) : Prop where
  ended : ∀ d ∈ s.dispatches, d.course.Paced d.policy
  running : ∀ t d, s.stage t = .running d → d.course.Paced d.policy

variable {initial : Policy} {s s' : Traffic} {t : Thread} {stage : Stage} {d : Dispatch}

theorem Paced.put (h : Paced s) (hstage : ∀ d, stage = .running d → d.course.Paced d.policy) :
    Paced (s.put t stage) where
  ended := h.ended
  running := by
    intro t' d hrunning
    by_cases heq : t' = t
    · rw [heq, put_stage_self] at hrunning
      exact hstage d hrunning
    · rw [put_stage_of_ne heq] at hrunning
      exact h.running t' d hrunning

/-- A thread changes its stage and runs no batch then. -/
theorem Paced.still (h : Paced s) (hstage : stage.dispatch? = none) : Paced (s.put t stage) :=
  h.put fun d hrunning => by
    rw [hrunning] at hstage
    contradiction

theorem Paced.step (h : Paced s) (o : Orderly initial s) (hstep : Step s s') : Paced s' := by
  cases hstep with
  | pass => exact ⟨h.ended, h.running⟩
  | call | cool => exact h.still rfl
  | @lock t call =>
    have hput : Paced (s.put t (.locked call)) := h.still rfl
    exact ⟨hput.ended, hput.running⟩
  | @read t | @set t =>
    have hput : Paced (s.put t .outside) := h.still rfl
    exact ⟨hput.ended, hput.running⟩
  | start =>
    refine h.put fun d hrunning => ?_
    cases hrunning
    exact .start
  | @turn t d course hstage hturn =>
    obtain ⟨-, hinside⟩ := o.inside hstage rfl
    refine h.put fun d' hrunning => ?_
    cases hrunning
    cases hinside with
    | running _ hserved hlawful =>
      rw [hserved.policy, ← hlawful.policy] at hturn
      exact (h.running t d hstage).turn hlawful.lent hlawful.course hturn
  | @finish t d hstage =>
    have hput : Paced (s.put t .outside) := h.still rfl
    refine ⟨List.forall_mem_append.mpr ⟨h.ended, ?_⟩, hput.running⟩
    exact List.forall_mem_singleton.mpr (h.running t d hstage)

theorem Reachable.paced (h : Reachable initial s) : Paced s := by
  obtain ⟨clock, hsteps⟩ := h
  induction hsteps with
  | refl => exact ⟨fun d hd => by contradiction, fun t d hrunning => by contradiction⟩
  | tail hbefore hstep ih => exact ih.step (Reachable.orderly ⟨clock, hbefore⟩) hstep

/-- The attempts that have ended, each with the dispatch that made it: those of one dispatch after
those of the dispatches before it. -/
def attempts (s : Traffic) : List (Dispatch × Attempt) :=
  s.timeline.flatMap fun d => d.course.attempts.map (d, ·)

theorem mem_attempts {p : Dispatch × Attempt} :
    p ∈ s.attempts ↔ p.1 ∈ s.timeline ∧ p.2 ∈ p.1.course.attempts := by
  obtain ⟨d, a⟩ := p
  simp only [attempts, List.mem_flatMap, List.mem_map, Prod.mk.injEq]
  constructor
  · rintro ⟨d, hd, a, ha, rfl, rfl⟩
    exact ⟨hd, ha⟩
  · rintro ⟨hd, ha⟩
    exact ⟨d, hd, a, ha, rfl, rfl⟩

theorem Paced.of_timeline (h : Paced s) (o : Orderly initial s) :
    ∀ d ∈ s.timeline, d.course.Paced d.policy := by
  rcases o.timeline_cases with heq | ⟨t, d, hstage, -, heq⟩
  · rw [heq]
    exact h.ended
  · rw [heq]
    exact List.forall_mem_append.mpr
      ⟨h.ended, List.forall_mem_singleton.mpr (h.running t d hstage)⟩

/-- The attempts of a dispatch had ended a pause before a later dispatch started. -/
theorem Orderly.ended_le_start (o : Orderly initial s) {d' : Dispatch} (hd : d ∈ s.timeline)
    (hclears : d.Clears d') {a : Attempt} (ha : a ∈ d.course.attempts) :
    a.ended + d'.policy.pause ≤ d'.start := by
  obtain ⟨finished, hrecorded, hle⟩ := hclears
  have hcourse := (o.timeline_lawful d hd).course
  rw [hrecorded] at hcourse
  exact (Nat.add_le_add_right (hcourse.attempts a ha).2.2 _).trans hle

end Traffic

/-- **Spacing of requests.** All batches go through one gate. However threads interleave, which
policies are set and whatever the transfers bring, of two attempts at one URL the later one was sent
at least the pause of the policy that its own batch runs under after the earlier one had ended,
whether both belong to one batch or not; and a transfer in flight is sent no earlier than that after
any attempt at its URL. -/
theorem attempts_spaced (initial : Policy) {s : Traffic} (h : Traffic.Reachable initial s) :
    (s.attempts.Pairwise fun earlier later => earlier.2.url = later.2.url →
      earlier.2.ended + later.1.policy.pause ≤ later.2.sent) ∧
    (∀ t d (index : Nat) (flight : Flight), s.stage t = .running d →
      d.course.loop.active[index]? = some flight →
      ∃ since, d.course.launched[index]? = some since ∧
        ∀ p ∈ s.attempts, p.2.url = flight.handle.url →
          p.2.ended + d.policy.pause ≤ since + flight.pause) ∧
    ∀ d ∈ s.timeline, Drive.Reaches d.policy d.call.maxConnections d.handles d.course.history
      d.course.loop := by
  have o := h.orderly
  have hlawful := o.timeline_lawful
  have hpaced := h.paced.of_timeline o
  refine ⟨?_, fun t d index flight hstage hflight => ?_, fun d hd => (hlawful d hd).course.reaches⟩
  · refine List.pairwise_flatMap.mpr ⟨fun d hd => ?_, o.timeline_spaced.imp_of_mem ?_⟩
    · exact List.pairwise_map.mpr (hpaced d hd).attempts
    · intro d d' hd hd' hclears p hp p' hp' hurl
      obtain ⟨a, ha, rfl⟩ := List.mem_map.mp hp
      obtain ⟨a', ha', rfl⟩ := List.mem_map.mp hp'
      exact (o.ended_le_start hd hclears ha).trans ((hlawful d' hd').course.attempts a' ha').1
  · have htimeline := o.timeline_of_running hstage
    have hd : d ∈ s.timeline := htimeline ▸ List.mem_append_right _ List.mem_cons_self
    obtain ⟨since, hsince⟩ := Course.exists_since (hpaced d hd).launched hflight
    refine ⟨since, hsince, fun p hp hurl => ?_⟩
    obtain ⟨hmem, ha⟩ := Traffic.mem_attempts.mp hp
    have hspaced := o.timeline_spaced
    rw [htimeline] at hmem hspaced
    rcases List.mem_append.mp hmem with hearlier | hsame
    · have hclears := (List.pairwise_append.mp hspaced).2.2 p.1 hearlier d List.mem_cons_self
      have hbegun := (hlawful d hd).course.launched since (List.mem_of_getElem? hsince)
      exact ((o.ended_le_start (htimeline ▸ hmem) hclears ha).trans hbegun).trans
        (Nat.le_add_right ..)
    · obtain rfl := List.mem_singleton.mp hsame
      exact (hpaced _ hd).le_sent (hlawful _ hd).lent (hlawful _ hd).course hflight hsince ha hurl

/-! After a batch that tries its URL twice the policy is replaced, and the URL is fetched again. -/
namespace Refetched

open Retuned

def again : Course := .start 1 [handle] 38

def ended : Course :=
  .resume (again.loop.complete slow 1 0 ⟨[[0x31]], .done⟩) []
    [⟨handle.url, ⟨[[0x31]], .done⟩, 38, 39⟩] 39

theorem turns : again.Turns slow 1 38 39 ended := by
  have hend : again.Turn slow 1 39 ended :=
    @Course.Turn.land _ _ _ _ 0 ⟨handle, 0⟩ 38 38 ⟨[[0x31]], .done⟩ rfl rfl (by decide) (by decide)
  exact .tail .refl (by decide) hend

def final : Traffic :=
  { Retuned.final with
    gate := ⟨slow, some 39⟩
    clock := 39
    entered := Retuned.final.entered ++ [.setPolicy slow, .fetchOne handle.url]
    dispatches := Retuned.final.dispatches ++
      [⟨.fetchOne handle.url, Retuned.final.entered ++ [.setPolicy slow], slow, [handle], 38, ended,
        some 39⟩] }

theorem reachable : Traffic.Reachable slow final := by
  have hlent : Lent (GateCall.fetchOne handle.url).urls [handle] :=
    ⟨by simp [GateCall.urls], by simp, by simp, by simp [handle]⟩
  obtain ⟨clock, hbefore⟩ := Retuned.reachable
  have hset := hbefore.trans (Traffic.steps_setPolicy (t := 1) rfl rfl slow)
  exact ⟨clock, hset.trans (Traffic.steps_dispatch (t := 2) rfl rfl rfl hlent (by decide) turns rfl
    (Nat.le_refl 39))⟩

end Refetched

/-- The attempts were sent at 6, 12 and 38 and ended at 7, 13 and 39, under pauses of 5, 5 and
25. -/
theorem attempts_spaced_refetched : Traffic.Reachable Retuned.slow Refetched.final ∧
    (Refetched.final.attempts.map fun p => (p.2.url, p.2.sent, p.2.ended, p.1.policy.pause)) =
      [(Retuned.handle.url, 6, 7, 5), (Retuned.handle.url, 12, 13, 5),
        (Retuned.handle.url, 38, 39, 25)] ∧
    Refetched.final.attempts.Pairwise fun earlier later => earlier.2.url = later.2.url →
      earlier.2.ended + later.1.policy.pause ≤ later.2.sent :=
  ⟨Refetched.reachable, rfl, (attempts_spaced Retuned.slow Refetched.reachable).1⟩

end MarketData
