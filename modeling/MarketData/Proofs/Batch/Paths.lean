import MarketData.Proofs.Batch.Coverage

/-! The paths through `Engine.fetch`. An empty set leaves the engine as it is; a thread without
transport, or that cannot drive transfers, has only tried the set-up; on any other a batch is run.
What holds along each path holds of every fetch. -/

namespace MarketData

/-- The first attempt decides. -/
theorem Setup.install_install (setup : Setup) (build build' : ClientBuilder)
    (config config' : TransportConfig) :
    (setup.install build config).install build' config' = setup.install build config := by
  cases setup with
  | pending =>
    rw [install, outcome]
    split <;> rfl
  | installed | failed => rfl

namespace Batch

variable {b : Batch} {e : Engine}

/-- Only URLs of the batch are requested. -/
theorem mem_urls_of_started (c : e.pool.Custody []) {url : Url}
    (h : url ∈ (b.run e).1.started) : url ∈ b.urls.items := by
  obtain ⟨seen, hreach, -, -⟩ := b.loop_answered c
  have hserved := (b.acquiring c).served
  rw [List.append_nil] at hserved
  refine hserved.mem_iff.mp (List.mem_append_left _ ?_)
  -- The loop asks for the URLs of its handles.
  by_contra hnone
  exact absurd h (List.count_eq_zero.mp ((b.books c hreach).others url hnone).2)

end Batch

namespace Engine

variable {env : Environment} {footing : Footing} {urls : UrlSet} {maxConnections : Nat}
  {policy : Policy} {e : Engine} {r : BatchRun × Engine}

inductive Path (env : Environment) (footing : Footing) (urls : UrlSet) (maxConnections : Nat)
    (policy : Policy) (e : Engine) : BatchRun × Engine → Prop
  | nothing : urls.isEmpty = true →
    Path env footing urls maxConnections policy e ({ results := .empty }, e)
  | noTransport : urls.isEmpty = false → (e.setup.install env.build {}).config = .error reason →
    Path env footing urls maxConnections policy e
      ({ results := .allFailed urls (.setup reason) }, e.ready env)
  | noDriver : urls.isEmpty = false → (e.setup.install env.build {}).config = .ok config →
    footing.obstacle? = some reason →
    Path env footing urls maxConnections policy e
      ({ results := .allFailed urls (.driver reason) }, e.ready env)
  | ran : urls.isEmpty = false → (e.setup.install env.build {}).config = .ok config →
    footing.obstacle? = none →
    Path env footing urls maxConnections policy e
      (Batch.run { env, config, urls, maxConnections, policy } (e.ready env))

theorem fetch_path : Path env footing urls maxConnections policy e
    (e.fetch env footing urls maxConnections policy) := by
  cases hempty : urls.isEmpty with
  | true =>
    rw [fetch_of_isEmpty hempty]
    exact .nothing hempty
  | false =>
    cases hsetup : (e.setup.install env.build {}).config with
    | error reason =>
      rw [fetch_of_setup_error hempty hsetup]
      exact .noTransport hempty hsetup
    | ok config =>
      cases hfooting : footing.obstacle? with
      | some reason =>
        rw [fetch_of_obstacle hempty hsetup hfooting]
        exact .noDriver hempty hsetup hfooting
      | none =>
        rw [fetch_of_free hempty hsetup hfooting]
        exact .ran hempty hsetup hfooting

namespace Path

theorem setup (h : Path env footing urls maxConnections policy e r) :
    r.2.setup = if urls.isEmpty then e.setup else e.setup.install env.build {} := by
  cases h with
  | nothing hempty => rw [hempty]; rfl
  | noTransport hempty | noDriver hempty | ran hempty => rw [hempty]; rfl

theorem custody (h : Path env footing urls maxConnections policy e r) (c : e.pool.Custody []) :
    r.2.pool.Custody [] := by
  cases h with
  | nothing | noTransport | noDriver => exact c
  | ran => exact Batch.run_custody c

/-- Each URL has one entry, and no other URL has any. -/
theorem keys_perm (h : Path env footing urls maxConnections policy e r) (c : e.pool.Custody []) :
    r.1.results.entries.keys.Perm urls.items := by
  cases h with
  | nothing hempty =>
    rw [List.isEmpty_iff.mp hempty]
    exact .refl _
  | noTransport | noDriver => exact Results.allFailed_keys_perm ..
  | ran => exact Batch.run_keys_perm c

theorem mem_urls_of_started (h : Path env footing urls maxConnections policy e r)
    (c : e.pool.Custody []) {url : Url} (hurl : url ∈ r.1.started) : url ∈ urls.items := by
  cases h with
  | nothing | noTransport | noDriver => contradiction
  | ran => exact Batch.mem_urls_of_started c hurl

end Path

end Engine

end MarketData
