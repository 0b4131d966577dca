import MarketData.Proofs.Gate.Order

/-! The dispatches of a gate in time: those that are over and then the one under way, if there is
one. By the order that each step keeps, they stand apart by the pauses they owe, and the pauses add
up from the first to the last. -/

namespace MarketData

namespace Traffic

variable {initial : Policy} {s : Traffic} {t : Thread}

namespace Orderly

/-- The timeline ends with the dispatch under way, if there is one. -/
theorem timeline_cases (o : Orderly initial s) :
    s.timeline = s.dispatches ∨
    ∃ t d, s.stage t = .running d ∧ Inside initial s (.running d) ∧
      s.timeline = s.dispatches ++ [d] := by
  unfold timeline
  cases hholder : s.holder with
  | none => exact .inl (List.append_nil _)
  | some t =>
    have hinside := o.held t hholder
    cases hstage : s.stage t with
    | running d =>
      rw [hstage] at hinside
      exact .inr ⟨t, d, hstage, hinside, by simp [hstage, Stage.dispatch?]⟩
    | _ => exact .inl (by simp [hstage, Stage.dispatch?])

theorem timeline_of_running (o : Orderly initial s) {d : Dispatch}
    (hstage : s.stage t = .running d) : s.timeline = s.dispatches ++ [d] := by
  obtain ⟨hholder, -⟩ := o.inside hstage rfl
  simp [timeline, hholder, hstage, Stage.dispatch?]

theorem timeline_spaced (o : Orderly initial s) : s.timeline.Pairwise Dispatch.Clears := by
  rcases o.timeline_cases with heq | ⟨t, d, -, hinside, heq⟩
  · rw [heq]
    exact o.spaced
  · cases hinside with
    | running _ _ _ _ hclears =>
      rw [heq]
      exact List.pairwise_append.mpr ⟨o.spaced, List.pairwise_singleton .., by simpa using hclears⟩

theorem timeline_lawful (o : Orderly initial s) :
    ∀ d ∈ s.timeline, d.Lawful initial s.entered (d.recorded.getD s.clock) := by
  have hover : ∀ d ∈ s.dispatches, d.Lawful initial s.entered (d.recorded.getD s.clock) := by
    intro d hd
    obtain ⟨finished, -, hrecorded, hlawful, -⟩ := o.noted d hd
    rw [hrecorded]
    exact hlawful
  rcases o.timeline_cases with heq | ⟨t, d, -, hinside, heq⟩
  · rw [heq]
    exact hover
  · cases hinside with
    | running _ _ hlawful hnone _ =>
      rw [heq]
      refine List.forall_mem_append.mpr ⟨hover, List.forall_mem_singleton.mpr ?_⟩
      rw [hnone]
      exact hlawful

/-- No dispatch is missing, but one that has not started. -/
theorem timeline_calls (o : Orderly initial s) : ∃ pending,
    s.entered.filter (·.isDispatch) = s.timeline.map (·.call) ++ pending ∧ pending.length ≤ 1 := by
  have hone (call : GateCall) : ([call].filter (·.isDispatch)).length ≤ 1 :=
    List.length_filter_le ..
  rcases o.timeline_cases with heq | ⟨t, d, -, hinside, heq⟩
  · rw [heq]
    cases hholder : s.holder with
    | none => exact ⟨[], by rw [List.append_nil, (o.free hholder).dispatches], by simp⟩
    | some t =>
      have hinside := o.held t hholder
      generalize s.stage t = stage at hinside
      cases hinside with
      | locked hentered hserved | cooling hentered hserved | running hentered hserved =>
        rw [hentered, List.filter_append, hserved.dispatches]
        exact ⟨_, rfl, hone _⟩
  · cases hinside with
    | running hentered hserved hlawful =>
      refine ⟨[], ?_, by simp⟩
      rw [heq, hentered, List.filter_append, List.map_append, hserved.dispatches,
        List.filter_cons_of_pos hlawful.isDispatch, List.append_nil]
      rfl

end Orderly

/-- The pauses owed after the first dispatch have all passed when the last one starts. -/
theorem owed_le {first last : Dispatch} {later : List Dispatch}
    (hspaced : (first :: (later ++ [last])).Pairwise Dispatch.Clears)
    (hbegun : ∀ d ∈ later, ∀ finished, d.recorded = some finished → d.start ≤ finished) :
    ∃ finished, first.recorded = some finished ∧
      finished + ((later ++ [last]).map (·.policy.pause)).sum ≤ last.start := by
  induction later generalizing first with
  | nil =>
    obtain ⟨finished, hrecorded, hle⟩ := List.pairwise_pair.mp hspaced
    exact ⟨finished, hrecorded, by simpa using hle⟩
  | cons next later ih =>
    obtain ⟨hfirst, hrest⟩ := List.pairwise_cons.mp hspaced
    obtain ⟨finished, hrecorded, hpause⟩ := hfirst next List.mem_cons_self
    obtain ⟨hnext, hlater⟩ := List.forall_mem_cons.mp hbegun
    obtain ⟨finished', hrecorded', howed⟩ := ih hrest hlater
    refine ⟨finished, hrecorded, ?_⟩
    rw [List.cons_append, List.map_cons, List.sum_cons, ← Nat.add_assoc]
    exact (Nat.add_le_add_right (hpause.trans (hnext _ hrecorded')) _).trans howed

theorem Orderly.timeline_owed (o : Orderly initial s) {first last : Dispatch}
    {later : List Dispatch} (heq : s.timeline = first :: (later ++ [last])) :
    ∃ finished, first.recorded = some finished ∧ first.start ≤ finished ∧
      finished + ((later ++ [last]).map (·.policy.pause)).sum ≤ last.start := by
  have hbegun : ∀ d ∈ s.timeline, ∀ finished, d.recorded = some finished →
      d.start ≤ finished := by
    intro d hd finished hrecorded
    have hle := (o.timeline_lawful d hd).begun
    rwa [hrecorded] at hle
  rw [heq] at hbegun
  obtain ⟨hfirst, hrest⟩ := List.forall_mem_cons.mp hbegun
  obtain ⟨finished, hrecorded, howed⟩ := owed_le (heq ▸ o.timeline_spaced)
    fun d hd => hrest d (List.mem_append_left _ hd)
  exact ⟨finished, hrecorded, hfirst finished hrecorded, howed⟩

/-- The dispatches as the gauge of a gate notes them. -/
def spacing (dispatches : List Dispatch) : Spacing :=
  dispatches.foldl (fun p d => p.note d.start d.policy.pause) {}

theorem spacing_cons (first : Dispatch) (later : List Dispatch) :
    spacing (first :: later) = ⟨some first.start, (later.map (·.policy.pause)).sum⟩ := by
  have hfold (owed : Milliseconds) :
      later.foldl (fun (p : Spacing) d => p.note d.start d.policy.pause)
        ⟨some first.start, owed⟩ =
      ⟨some first.start, owed + (later.map (·.policy.pause)).sum⟩ := by
    induction later generalizing owed with
    | nil => rfl
    | cons d later ih =>
      rw [List.foldl_cons, List.map_cons, List.sum_cons, ← Nat.add_assoc]
      exact ih _
  have hstart := hfold 0
  rwa [Nat.zero_add] at hstart

/-- The gauge always reads that all pauses were kept. -/
theorem Reachable.spacing_isKept (h : Reachable initial s) {before : List Dispatch}
    {last : Dispatch} (heq : s.timeline = before ++ [last]) :
    (spacing s.timeline).isKept last.start = true := by
  rw [heq]
  cases before with
  | nil =>
    rw [List.nil_append, spacing_cons]
    simp [Spacing.isKept]
  | cons first later =>
    obtain ⟨finished, -, hbegun, howed⟩ := h.orderly.timeline_owed heq
    rw [List.cons_append, spacing_cons]
    exact decide_eq_true ((Nat.add_le_add_right hbegun _).trans howed)

end Traffic

/-- **Gate safety.** However threads interleave at a gate, one of them is inside. While a dispatch
is under way no other call takes the lock, and the policy is the one it started under. Each dispatch
starts when its pause has passed since any earlier one was over, is lawful from its start to its
end, and none is missing. So the time from the first to the start of the last is at least the sum of
the pauses owed by the later ones. -/
theorem gate_safety (initial : Policy) {s : Traffic} (h : Traffic.Reachable initial s) :
    (∀ t t', (s.stage t).isInside = true → (s.stage t').isInside = true → t = t') ∧
    (∀ t d, s.stage t = .running d → s.timeline = s.dispatches ++ [d] ∧
      s.entered = d.before ++ [d.call] ∧ s.gate.policy = d.policy) ∧
    s.timeline.Pairwise Dispatch.Clears ∧
    (∀ d ∈ s.timeline, d.Lawful initial s.entered (d.recorded.getD s.clock)) ∧
    (∃ pending, s.entered.filter (·.isDispatch) = s.timeline.map (·.call) ++ pending ∧
      pending.length ≤ 1) ∧
    ∀ first later last, s.timeline = first :: (later ++ [last]) →
      ∃ finished, first.recorded = some finished ∧ first.start ≤ finished ∧
        finished + ((later ++ [last]).map (·.policy.pause)).sum ≤ last.start := by
  have o := h.orderly
  have hlawful := o.timeline_lawful
  refine ⟨fun t t' ht ht' => ?_, fun t d hstage => ?_, o.timeline_spaced, o.timeline_lawful,
    o.timeline_calls, fun first later last heq => o.timeline_owed heq⟩
  · exact Option.some.inj ((o.alone t ht).symm.trans (o.alone t' ht'))
  · obtain ⟨-, hinside⟩ := o.inside hstage rfl
    cases hinside with
    | running hentered hserved hlawful =>
      exact ⟨o.timeline_of_running hstage, hentered, hserved.policy.trans hlawful.policy.symm⟩

/-! The policy is replaced between a wait and a batch that tries its URL twice. -/
namespace Retuned

def slow : Policy := { pause := 25 }

def quick : Policy := { maxRetries := 1, retryEmpty := true, pause := 5 }

def handle : Handle := { id := 0, url := ⟨"http://a/"⟩, config := {} }

def begun : Course := .start 1 [handle] 6

def retried : Course :=
  .resume (begun.loop.complete quick 1 0 ⟨[], .done⟩) [] [⟨handle.url, ⟨[], .done⟩, 6, 7⟩] 7

def ended : Course :=
  .resume (retried.loop.complete quick 1 0 ⟨[[0x31]], .done⟩) []
    (retried.attempts ++ [⟨handle.url, ⟨[[0x31]], .done⟩, 12, 13⟩]) 13

theorem turns : begun.Turns quick 1 6 13 ended := by
  have hretry : begun.Turn quick 1 7 retried :=
    @Course.Turn.land _ _ _ _ 0 ⟨handle, 0⟩ 6 6 ⟨[], .done⟩ rfl rfl (by decide) (by decide)
  have hend : retried.Turn quick 1 13 ended :=
    @Course.Turn.land _ _ _ _ 0 ⟨handle, 5⟩ 7 12 ⟨[[0x31]], .done⟩ rfl rfl (by decide) (by decide)
  exact .tail (.tail .refl (by decide) hretry) (by decide) hend

def final : Traffic where
  gate := ⟨quick, some 13⟩
  clock := 13
  holder := none
  stage := fun _ => .outside
  entered := [.wait, .setPolicy quick, .fetchOne handle.url]
  dispatches :=
    [⟨.wait, [], slow, [], 0, .start 1 [] 0, some 0⟩,
      ⟨.fetchOne handle.url, [.wait, .setPolicy quick], quick, [handle], 6, ended, some 13⟩]

theorem reachable : Traffic.Reachable slow final := by
  have hlent : Lent (GateCall.fetchOne handle.url).urls [handle] :=
    ⟨by simp [GateCall.urls], by simp, by simp, by simp [handle]⟩
  have hwait := Traffic.steps_dispatch (s := .initial slow 0) (t := 0) rfl rfl
    (show GateCall.wait.isDispatch = true from rfl) .nil (Nat.le_refl 0) .refl rfl (Nat.le_refl 0)
  have hset := hwait.trans (Traffic.steps_setPolicy (t := 1) rfl rfl quick)
  exact ⟨0, hset.trans (Traffic.steps_dispatch (t := 2) rfl rfl rfl hlent (by decide) turns rfl
    (Nat.le_refl 13))⟩

end Retuned

theorem gate_safety_retuned : Traffic.Reachable Retuned.slow Retuned.final ∧
    Retuned.final.timeline.Pairwise Dispatch.Clears ∧
    Retuned.final.timeline.map (·.policy) = [Retuned.slow, Retuned.quick] :=
  ⟨Retuned.reachable, (gate_safety Retuned.slow Retuned.reachable).2.2.1, rfl⟩

end MarketData
