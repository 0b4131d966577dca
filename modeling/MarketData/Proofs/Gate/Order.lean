import MarketData.Proofs.Gate.Traffic

/-! What the gate keeps, however threads interleave. Only the thread that has the lock is inside, so
the policy stands still while a dispatch is under way and the whole batch runs under it; and the
gate notes an instant that no dispatch before it has outlasted, so that one who waits for the pause
after it waits for the pause after all of them. Both are part of one invariant, `Traffic.Orderly`,
which each step of a thread keeps (`Orderly.step`). -/

namespace MarketData

namespace Dispatch

variable {initial : Policy} {entered : List GateCall} {now now' : Instant} {d d' : Dispatch}

/-- `d` is over and has cooled down when `d'` starts. -/
def Clears (d d' : Dispatch) : Prop :=
  ∃ finished, d.recorded = some finished ∧ finished + d'.policy.pause ≤ d'.start

/-- Up to `now` a dispatch went on as it should: under the policy that was set last before it took
the lock, from its first attempt to its last. -/
structure Lawful (initial : Policy) (entered : List GateCall) (now : Instant) (d : Dispatch) :
    Prop where
  isDispatch : d.call.isDispatch = true
  entered : d.before ++ [d.call] <+: entered
  policy : d.policy = GateCall.policyAfter initial d.before
  lent : Lent d.call.urls d.handles
  begun : d.start ≤ now
  course : d.course.Lawful d.policy d.call.maxConnections d.handles d.start now

theorem Lawful.later (h : d.Lawful initial entered now) (hle : now ≤ now') :
    d.Lawful initial entered now' :=
  { h with begun := h.begun.trans hle, course := h.course.later hle }

theorem Lawful.enter (h : d.Lawful initial entered now) (call : GateCall) :
    d.Lawful initial (entered ++ [call]) now :=
  { h with entered := h.entered.trans (List.prefix_append ..) }

/-- A dispatch that was over by the instant that the gate has noted. -/
def Over (initial : Policy) (entered : List GateCall) (noted : Option Instant) (d : Dispatch) :
    Prop :=
  ∃ finished last, d.recorded = some finished ∧ d.Lawful initial entered finished ∧
    noted = some last ∧ finished ≤ last

section

variable {noted : Option Instant}

theorem Over.enter (h : d.Over initial entered noted) (call : GateCall) :
    d.Over initial (entered ++ [call]) noted := by
  obtain ⟨finished, last, hrecorded, hlawful, hlast⟩ := h
  exact ⟨finished, last, hrecorded, hlawful.enter call, hlast⟩

theorem Over.later (h : d.Over initial entered noted)
    (hpast : ∀ last, noted = some last → last ≤ now) : d.Over initial entered (some now) := by
  obtain ⟨finished, last, hrecorded, hlawful, hlast, hle⟩ := h
  exact ⟨finished, now, hrecorded, hlawful, rfl, hle.trans (hpast last hlast)⟩

theorem Lawful.over (h : d.Lawful initial entered now) :
    Over initial entered (some now) { d with recorded := some now } :=
  ⟨now, now, rfl, { h with }, rfl, Nat.le_refl _⟩

/-- Who has waited for the pause after the instant that is noted has waited for it after each
dispatch that was over by then. -/
theorem Over.clears (h : d.Over initial entered noted)
    (hpause : ∀ last, noted = some last → last + d'.policy.pause ≤ d'.start) : d.Clears d' := by
  obtain ⟨finished, last, hrecorded, -, hlast, hle⟩ := h
  exact ⟨finished, hrecorded, (Nat.add_le_add_right hle _).trans (hpause last hlast)⟩

end

end Dispatch

namespace Traffic

variable {initial : Policy} {s s' : Traffic} {t : Thread} {stage : Stage}

/-- These calls are over: the policy is the one they have left, and the dispatches are theirs. -/
structure Served (initial : Policy) (s : Traffic) (calls : List GateCall) : Prop where
  policy : s.gate.policy = GateCall.policyAfter initial calls
  dispatches : s.dispatches.map (·.call) = calls.filter (·.isDispatch)

/-- The thread inside is at its call, and the calls before are over; a dispatch sleeps and starts as
the gate has noted. -/
inductive Inside (initial : Policy) (s : Traffic) : Stage → Prop
  | locked : s.entered = before ++ [call] → Served initial s before →
    Inside initial s (.locked call)
  | cooling : s.entered = before ++ [call] → Served initial s before → call.isDispatch = true →
    (∀ last, s.gate.lastDispatch = some last → last + s.gate.policy.pause ≤ wake) →
    Inside initial s (.cooling call wake)
  | running : s.entered = d.before ++ [d.call] → Served initial s d.before →
    d.Lawful initial s.entered s.clock → d.recorded = none →
    (∀ earlier ∈ s.dispatches, earlier.Clears d) → Inside initial s (.running d)

namespace Inside

theorem isInside (h : Inside initial s stage) : stage.isInside = true := by
  cases h <;> rfl

theorem put (h : Inside initial s stage) (t : Thread) (stage' : Stage) :
    Inside initial (s.put t stage') stage := by
  cases h with
  | locked hentered hserved => exact .locked hentered { hserved with }
  | cooling hentered hserved hcall hwake => exact .cooling hentered { hserved with } hcall hwake
  | running hentered hserved hlawful hnone hclears =>
    exact .running hentered { hserved with } hlawful hnone hclears

theorem pass (h : Inside initial s stage) {now : Instant} (hle : s.clock ≤ now) :
    Inside initial { s with clock := now } stage := by
  cases h with
  | locked hentered hserved => exact .locked hentered { hserved with }
  | cooling hentered hserved hcall hwake => exact .cooling hentered { hserved with } hcall hwake
  | running hentered hserved hlawful hnone hclears =>
    exact .running hentered { hserved with } (hlawful.later hle) hnone hclears

end Inside

structure Orderly (initial : Policy) (s : Traffic) : Prop where
  alone : ∀ t, (s.stage t).isInside = true → s.holder = some t
  free : s.holder = none → Served initial s s.entered
  held : ∀ t, s.holder = some t → Inside initial s (s.stage t)
  noted : ∀ d ∈ s.dispatches, d.Over initial s.entered s.gate.lastDispatch
  past : ∀ last, s.gate.lastDispatch = some last → last ≤ s.clock
  spaced : s.dispatches.Pairwise Dispatch.Clears

theorem orderly_initial (policy : Policy) (clock : Instant) :
    Orderly policy (Traffic.initial policy clock) where
  alone := fun t h => by contradiction
  free := fun _ => ⟨rfl, rfl⟩
  held := fun t h => by contradiction
  noted := by simp [Traffic.initial]
  past := fun last h => by contradiction
  spaced := .nil

namespace Orderly

theorem inside (o : Orderly initial s) (hstage : s.stage t = stage)
    (h : stage.isInside = true) : s.holder = some t ∧ Inside initial s stage := by
  subst hstage
  exact ⟨o.alone t h, o.held t (o.alone t h)⟩

theorem pass (o : Orderly initial s) {now : Instant} (hle : s.clock ≤ now) :
    Orderly initial { s with clock := now } :=
  { o with
    free := fun hfree => { o.free hfree with }
    held := fun t hholder => (o.held t hholder).pass hle
    past := fun last hlast => (o.past last hlast).trans hle }

/-- A thread changes its stage and is inside as before. -/
theorem put (o : Orderly initial s) (hsame : stage.isInside = (s.stage t).isInside)
    (hinside : stage.isInside = true → Inside initial s stage) :
    Orderly initial (s.put t stage) :=
  { o with
    alone := fun t' h => by
      by_cases heq : t' = t
      · subst heq
        rw [put_stage_self, hsame] at h
        exact o.alone t' h
      · rw [put_stage_of_ne heq] at h
        exact o.alone t' h
    free := fun hfree => { o.free hfree with }
    held := fun t' hholder => by
      by_cases heq : t' = t
      · subst heq
        rw [put_stage_self]
        exact (hinside (hsame.trans (o.held t' hholder).isInside)).put t' stage
      · rw [put_stage_of_ne heq]
        exact (o.held t' hholder).put t stage }

theorem enter (o : Orderly initial s) (hfree : s.holder = none) (t : Thread) (call : GateCall) :
    Orderly initial (s.enter t call) where
  alone := fun t' h => by
    by_cases heq : t' = t
    · exact congrArg some heq.symm
    · rw [show (s.enter t call).stage t' = s.stage t' from put_stage_of_ne heq ..] at h
      rw [o.alone t' h] at hfree
      contradiction
  free := fun h => by contradiction
  held := fun t' hholder => by
    obtain rfl : t = t' := Option.some.inj hholder
    rw [show (s.enter t call).stage t = .locked call from put_stage_self ..]
    exact .locked rfl { o.free hfree with }
  noted := fun d hd => (o.noted d hd).enter call
  past := o.past
  spaced := o.spaced

/-- The thread inside leaves, and the gate may have noted something. -/
theorem leave (o : Orderly initial s) (hholder : s.holder = some t) {gate : Gate}
    {dispatches : List Dispatch}
    (hserved : Served initial { s.leave t with gate, dispatches } s.entered)
    (hnoted : ∀ d ∈ dispatches, d.Over initial s.entered gate.lastDispatch)
    (hpast : ∀ last, gate.lastDispatch = some last → last ≤ s.clock)
    (hspaced : dispatches.Pairwise Dispatch.Clears) :
    Orderly initial { s.leave t with gate, dispatches } where
  alone := fun t' h => by
    by_cases heq : t' = t
    · subst heq
      rw [show (s.leave t').stage t' = .outside from put_stage_self ..] at h
      contradiction
    · rw [show (s.leave t).stage t' = s.stage t' from put_stage_of_ne heq ..] at h
      exact absurd (Option.some.inj ((o.alone t' h).symm.trans hholder)) heq
  free := fun _ => hserved
  held := fun t' h => by contradiction
  noted := hnoted
  past := hpast
  spaced := hspaced

/-- A dispatch that wakes starts apart from all before it. -/
theorem inside_start (o : Orderly initial s) {call : GateCall} {wake : Instant}
    {handles : List Handle} (hinside : Inside initial s (.cooling call wake))
    (hwake : wake ≤ s.clock) (hlent : Lent call.urls handles) :
    Inside initial s (.running (s.dispatch call handles)) := by
  cases hinside with
  | @cooling before _ _ hentered hserved hcall hpause =>
    have hbefore : s.entered.dropLast = before := by rw [hentered, List.dropLast_concat]
    rw [← hbefore] at hentered hserved
    have hlawful : (s.dispatch call handles).Lawful initial s.entered s.clock :=
      ⟨hcall, ⟨[], by rw [List.append_nil]; exact hentered.symm⟩, hserved.policy, hlent,
        Nat.le_refl _, .start⟩
    exact .running hentered hserved hlawful rfl fun earlier hearlier =>
      (o.noted earlier hearlier).clears fun last hlast => (hpause last hlast).trans hwake

/-- A dispatch that is over leaves its end noted. -/
theorem finish (o : Orderly initial s) {d : Dispatch} (hstage : s.stage t = .running d) :
    Orderly initial { s.leave t with
      gate := s.gate.stamp s.clock
      dispatches := s.dispatches ++ [{ d with recorded := some s.clock }] } := by
  obtain ⟨hholder, hinside⟩ := o.inside hstage rfl
  cases hinside with
  | running hentered hserved hlawful _ hclears =>
    refine o.leave hholder ⟨?_, ?_⟩ (List.forall_mem_append.mpr
      ⟨fun d hd => (o.noted d hd).later o.past, List.forall_mem_singleton.mpr hlawful.over⟩) ?_ ?_
    · rw [hentered, GateCall.policyAfter_other
        (GateCall.ne_setPolicy_of_isDispatch hlawful.isDispatch)]
      exact hserved.policy
    · rw [hentered, List.filter_append, List.map_append, hserved.dispatches,
        List.filter_cons_of_pos hlawful.isDispatch]
      rfl
    · intro last hlast
      cases hlast
      exact Nat.le_refl _
    · refine List.pairwise_append.mpr ⟨o.spaced, List.pairwise_singleton .., ?_⟩
      intro earlier hearlier d' hd'
      obtain rfl := List.mem_singleton.mp hd'
      exact hclears earlier hearlier

/-- Every step of every thread keeps order. -/
theorem step (o : Orderly initial s) (h : Step s s') : Orderly initial s' := by
  cases h with
  | pass hle => exact o.pass hle
  | call hstage => exact o.put (by rw [hstage]; rfl) fun h => by contradiction
  | lock hfree => exact o.enter hfree _ _
  | read hstage =>
    obtain ⟨hholder, hinside⟩ := o.inside hstage rfl
    cases hinside with
    | locked hentered hserved =>
      refine o.leave hholder ⟨?_, ?_⟩ o.noted o.past o.spaced
      · rw [hentered, GateCall.policyAfter_other (by simp)]
        exact hserved.policy
      · rw [hentered, List.filter_append]
        exact hserved.dispatches.trans (List.append_nil _).symm
  | set hstage =>
    obtain ⟨hholder, hinside⟩ := o.inside hstage rfl
    cases hinside with
    | locked hentered hserved =>
      refine o.leave hholder ⟨?_, ?_⟩ o.noted o.past o.spaced
      · rw [hentered, GateCall.policyAfter_setPolicy]
        rfl
      · rw [hentered, List.filter_append]
        exact hserved.dispatches.trans (List.append_nil _).symm
  | cool hstage hcall =>
    obtain ⟨-, hinside⟩ := o.inside hstage rfl
    refine o.put (by rw [hstage]; rfl) fun _ => ?_
    cases hinside with
    | locked hentered hserved =>
      exact .cooling hentered hserved hcall fun last hlast => Gate.le_opensAt hlast
  | start hstage hwake hlent =>
    obtain ⟨-, hinside⟩ := o.inside hstage rfl
    exact o.put (by rw [hstage]; rfl) fun _ => o.inside_start hinside hwake hlent
  | turn hstage hturn =>
    obtain ⟨-, hinside⟩ := o.inside hstage rfl
    refine o.put (by rw [hstage]; rfl) fun _ => ?_
    cases hinside with
    | running hentered hserved hlawful hnone hclears =>
      -- The loop asks the gate for the policy, which is still the one it started under.
      rw [hserved.policy, ← hlawful.policy] at hturn
      have hcourse := hlawful.course.turn hlawful.begun hturn
      exact .running hentered hserved { hlawful with course := hcourse } hnone hclears
  | finish hstage => exact o.finish hstage

end Orderly

theorem Reachable.orderly (h : Reachable initial s) : Orderly initial s := by
  obtain ⟨clock, hsteps⟩ := h
  induction hsteps with
  | refl => exact orderly_initial initial clock
  | tail _ hstep ih => exact ih.step hstep

end Traffic

end MarketData
