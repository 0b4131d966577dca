import MarketData.Gate

/-! What one dispatch does to a gate. It starts as soon as the pause since the noted instant is
over, and the gate notes the instant at which it ends (`Gate.Passed`). So it is for a batch, however
long it takes, and for a wait, which ends as it starts. -/

namespace MarketData

namespace Gate

variable {g : Gate} {now last : Instant}

/-- The pause has passed when the gate opens. -/
theorem le_opensAt (h : g.lastDispatch = some last) : last + g.policy.pause ≤ g.opensAt now := by
  rw [opensAt, h]
  exact Nat.le_max_right ..

theorem self_le_opensAt (g : Gate) (now : Instant) : now ≤ g.opensAt now := by
  unfold opensAt
  split
  · exact Nat.le_refl now
  · exact Nat.le_max_left ..

/-- It does not stay closed for longer. -/
theorem opensAt_eq (g : Gate) (now : Instant) : g.opensAt now = now ∨
    ∃ last, g.lastDispatch = some last ∧ g.opensAt now = last + g.policy.pause := by
  unfold opensAt
  split
  · exact .inl rfl
  · rename_i last hlast
    rcases Nat.le_total (last + g.policy.pause) now with hpassed | howed
    · exact .inl (Nat.max_eq_left hpassed)
    · exact .inr ⟨last, hlast, Nat.max_eq_right howed⟩

/-- A dispatch that came to the gate at `now` has started and ended at these instants, and left the
gate so. -/
structure Passed (g : Gate) (now start finish : Instant) (g' : Gate) : Prop where
  arrived : now ≤ start
  paused : ∀ last, g.lastDispatch = some last → last + g.policy.pause ≤ start
  prompt : start = now ∨ ∃ last, g.lastDispatch = some last ∧ start = last + g.policy.pause
  finished : start ≤ finish
  noted : g'.lastDispatch = some finish
  policy : g'.policy = g.policy

theorem dispatch_passed {α : Type} {batch : Policy → Instant → α × Instant}
    (h : g.opensAt now ≤ (batch g.policy (g.opensAt now)).2) :
    g.Passed now (g.opensAt now) (g.dispatch now batch).2.1 (g.dispatch now batch).2.2 where
  arrived := g.self_le_opensAt now
  paused := fun _ => le_opensAt
  prompt := g.opensAt_eq now
  finished := h
  noted := rfl
  policy := rfl

theorem wait_eq_dispatch (g : Gate) (now : Instant) :
    g.wait now = g.dispatch now fun policy start => (policy, start) := rfl

theorem wait_passed (g : Gate) (now : Instant) :
    g.Passed now (g.wait now).2.1 (g.wait now).2.1 (g.wait now).2.2 :=
  g.wait_eq_dispatch now ▸ dispatch_passed (Nat.le_refl _)

section

variable (env : Environment) (footing : Footing) (e : Engine) (now : Instant) (g : Gate)

theorem fetch_passed (urls : UrlSet) (maxConnections : Nat) :
    let r := g.fetch env footing urls maxConnections e now
    r.2.1 = g.opensAt now + env.lasts (g.opensAt now) r.1.1 ∧
      g.Passed now (g.opensAt now) r.2.1 r.2.2 :=
  ⟨rfl, dispatch_passed (Nat.le_add_right ..)⟩

theorem fetchOne_passed (url : Url) :
    let r := g.fetchOne env footing url e now
    r.2.1 = g.opensAt now + env.lasts (g.opensAt now) r.1.2.1 ∧
      g.Passed now (g.opensAt now) r.2.1 r.2.2 :=
  ⟨rfl, dispatch_passed (Nat.le_add_right ..)⟩

end

end Gate

end MarketData
