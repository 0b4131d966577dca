import MarketData.Proofs.Batch.Built
import MarketData.Proofs.Transport.Process

/-! The first set-up wins. Calls may set the transport up on purpose, by making a client or by
fetching; the first of them decides, also if it fails (`Process.Decided`). From then on all handles
of all threads are built from its configuration, or there are none. A fetch of no URL decides
nothing. -/

namespace MarketData

/-- What the first call brings that would set the transport up. -/
def decisive? (calls : List (Nat × TransportCall)) : Option (ClientBuilder × TransportConfig) :=
  calls.findSome? (·.2.setsUp?)

theorem decisive?_snoc (calls : List (Nat × TransportCall)) (call : Nat × TransportCall) :
    decisive? (calls ++ [call]) = (decisive? calls).or call.2.setsUp? := by
  simp [decisive?, List.findSome?_append]

namespace Setup

variable {setup : Setup} {build : ClientBuilder} {config config' : TransportConfig}

/-- What the first attempt came to, if there was one. -/
def decided (first : Option (ClientBuilder × TransportConfig)) : Setup :=
  first.elim pending fun first => outcome first.1 first.2

theorem outcome_of_ok (h : build config = .ok ()) : outcome build config = .installed config := by
  rw [outcome, h]

theorem outcome_of_error {reason : String} (h : build config = .error reason) :
    outcome build config = .failed (notBuilt reason) := by
  rw [outcome, h]

theorem config_eq_ok_iff : setup.config = .ok config ↔ setup = .installed config := by
  cases setup <;> simp [Setup.config]

/-- What was decided stays, and what was not is decided now. -/
theorem install_decided (first : Option (ClientBuilder × TransportConfig)) (build : ClientBuilder)
    (config : TransportConfig) :
    (decided first).install build config = decided (first.or (some (build, config))) := by
  cases first with
  | none => rfl
  | some first => exact install_install pending first.1 build first.2 config

end Setup

/-! ## One engine -/

/-- The handles are built from the configuration that is installed, and without one nothing has
been sent since `log`. -/
structure Engine.Sound (log : List String) (e : Engine) : Prop where
  custody : e.pool.Custody []
  built : ∀ h ∈ e.pool.handles, e.setup = .installed h.config
  quiet : (∀ config, e.setup ≠ .installed config) → e.log = log

namespace Engine.Sound

variable {log : List String} {e : Engine} {env : Environment} {footing : Footing} {urls : UrlSet}
  {maxConnections : Nat} {policy : Policy} {r : BatchRun × Engine}

theorem install (h : e.Sound log) (env : Environment) (config : TransportConfig) :
    (e.install env config).2.Sound log where
  custody := h.custody
  built := by
    intro a ha
    change e.setup.install env.build config = _
    rw [h.built a ha]
    rfl
  quiet := by
    intro hnone
    refine h.quiet fun config' hinstalled => hnone config' ?_
    change e.setup.install env.build config = _
    rw [hinstalled]
    rfl

theorem path (h : e.Sound log) (hpath : Path env footing urls maxConnections policy e r) :
    r.2.Sound log := by
  cases hpath with
  | nothing => exact h
  | noTransport | noDriver => exact h.install env {}
  | @ran config _ hconfig =>
    have hinstalled := Setup.config_eq_ok_iff.mp hconfig
    have hready : (e.ready env).Sound log := h.install env {}
    -- What is idle was built from the configuration that the batch runs with.
    have hbuilt := Batch.run_built (b := { env, config, urls, maxConnections, policy })
      (P := (· = config)) hready.custody rfl fun a ha =>
        Setup.installed.inj ((hready.built a ha).symm.trans hinstalled)
    refine ⟨Batch.run_custody hready.custody, fun a ha => ?_, fun hnone => ?_⟩
    · rw [hbuilt.2 a ha]
      exact hinstalled
    · exact absurd hinstalled (hnone config)

end Engine.Sound

/-! ## The process -/

namespace Process

/-- The calls so far have decided for a configuration, or none of them has. -/
structure Decided (log : List String) (first : Option (ClientBuilder × TransportConfig))
    (p : Process) : Prop where
  setup : p.setup = Setup.decided first
  engines : ∀ thread, (p.engine thread).Sound log

namespace Decided

variable {log : List String} {first first' : Option (ClientBuilder × TransportConfig)}
  {p p' : Process} {thread : Nat}

theorem alike (h : Decided log first p) (halike : Alike p p') : Decided log first p' where
  setup := halike.setup ▸ h.setup
  engines := fun thread => halike.engine thread ▸ h.engines thread

/-- An engine that has changed leaves those of the other threads sound. -/
theorem keep (h : Decided log first p) {e : Engine} (he : e.Sound log)
    (hsetup : e.setup = Setup.decided first')
    (hkept : ∀ config, p.setup = .installed config → e.setup = .installed config) :
    Decided log first' (p.keep thread e) where
  setup := hsetup
  engines := by
    intro other
    by_cases hother : other = thread
    · subst hother
      simpa [Process.engine, Process.keep] using he
    · have hsame : (p.keep thread e).engine other =
          { setup := e.setup, pool := p.pools other, log := e.log } := by
        simp [Process.engine, Process.keep, hother]
      rw [hsame]
      refine ⟨(h.engines other).custody, fun a ha => ?_, he.quiet⟩
      exact hkept _ ((h.engines other).built a ha)

theorem step (h : Decided log first p) (thread : Nat) (call : TransportCall) :
    Decided log (first.or call.setsUp?) (p.step thread call).2 := by
  have hinstall (build : ClientBuilder) (config : TransportConfig) :
      p.setup.install build config = Setup.decided (first.or (some (build, config))) := by
    rw [h.setup, Setup.install_decided]
  have hkept (build : ClientBuilder) (config : TransportConfig) : ∀ config',
      p.setup = .installed config' → p.setup.install build config = .installed config' :=
    fun config' hinstalled => by
      rw [hinstalled]
      rfl
  rcases step_cases thread call p with
    ⟨env, config, hconfig, -, halike⟩ | ⟨f, -, hconfig, -, halike⟩
  · refine Decided.alike ?_ halike
    rw [hconfig]
    exact h.keep ((h.engines thread).install env config) (hinstall env.build config)
      (hkept env.build config)
  · refine Decided.alike ?_ halike
    have hpath : Engine.Path f.env f.footing f.urls f.maxConnections f.policy (p.engine thread)
        (f.run (p.engine thread)) := Engine.fetch_path
    have hsetup := hpath.setup
    rw [hconfig]
    cases hempty : f.urls.isEmpty with
    | true =>
      rw [hempty] at hsetup
      refine h.keep ((h.engines thread).path hpath) ?_ fun config hinstalled => ?_
      · simpa using hsetup.trans h.setup
      · exact hsetup.trans hinstalled
    | false =>
      rw [hempty] at hsetup
      refine h.keep ((h.engines thread).path hpath) (hsetup.trans (hinstall f.env.build {})) ?_
      exact fun config hinstalled => hsetup.trans (hkept f.env.build {} config hinstalled)

end Decided

/-- A process whose transport was never set up. -/
def fresh (gates : Nat → Gate) (log : List String) (now : Instant) : Process := { gates, log, now }

theorem fresh_decided {gates : Nat → Gate} {log : List String} {now : Instant} :
    Decided log none (fresh gates log now) :=
  ⟨rfl, fun _ => ⟨.empty, fun _ hmem => absurd hmem List.not_mem_nil, fun _ => rfl⟩⟩

theorem after_decided (gates : Nat → Gate) (log : List String) (now : Instant)
    (calls : List (Nat × TransportCall)) :
    Decided log (decisive? calls) ((fresh gates log now).after calls) := by
  induction calls using List.reverseRecOn with
  | nil => exact fresh_decided
  | append_singleton calls call ih =>
    rw [after_snoc, decisive?_snoc]
    exact ih.step call.1 call.2

end Process

/-! ## What calls tell -/

namespace Fetching

/-- The batch of a fetch where this configuration is installed. -/
def batch (f : Fetching) (config : TransportConfig) : Batch :=
  { env := f.env, config, urls := f.urls, maxConnections := f.maxConnections, policy := f.policy }

end Fetching

/-- A call on an engine, in a process that has this configuration: a set-up succeeds, a client is
made, and a thread that can drive transfers runs the batch, on handles built from the
configuration. -/
inductive Served (config : TransportConfig) (gates : Nat → Gate) (e : Engine) :
    TransportCall → Report → Prop
  | installed : Served config gates e (.install env other) (.installed (.ok ()))
  | client : Served config gates e (.newClient env keys service) (.client (.ok ⟨keys, service⟩))
  | fetched : call.fetching? gates = some f → report.run? = some run →
    (f.urls.isEmpty = false → f.footing.obstacle? = none →
      run = ((f.batch config).run { e with setup := .installed config }).1 ∧
      ∀ h ∈ ((f.batch config).acquired e).handles, h.config = config) →
    Served config gates e call report

/-- A call in a process whose transport cannot be set up: each says so, and a fetch that it is so
for each of its URLs; it sends nothing. -/
inductive Refused (reason : String) (gates : Nat → Gate) : TransportCall → Report → Prop
  | installed : Refused reason gates (.install env other) (.installed (.error (.setup reason)))
  | client : Refused reason gates (.newClient env keys service)
    (.client (.error (.setup (FetchError.setup reason).message)))
  | fetched : call.fetching? gates = some f → report.run? = some run →
    (∀ url ∈ f.urls.items, run.results.entries.get? url = some (.error (.setup reason))) →
    run.started = [] → (∀ found, report = .document found run → found = none) →
    Refused reason gates call report

/-- Where the set-up has failed, a fetch reports it for each of its URLs and sends nothing. -/
theorem Fetching.run_refused (f : Fetching) {e : Engine} {reason : String}
    (h : f.urls.isEmpty = false → e.setup.install f.env.build {} = .failed reason) :
    (∀ url ∈ f.urls.items, (f.run e).1.results.entries.get? url = some (.error (.setup reason))) ∧
      (f.run e).1.started = [] := by
  cases hempty : f.urls.isEmpty with
  | true =>
    rw [run, Engine.fetch_of_isEmpty hempty, List.isEmpty_iff.mp hempty]
    exact ⟨by simp, rfl⟩
  | false =>
    have hconfig : (e.setup.install f.env.build {}).config = .error reason := by
      rw [h hempty]
      rfl
    rw [run, Engine.fetch_of_setup_error hempty hconfig]
    exact ⟨(Engine.fails_allFailed _ _).entry, rfl⟩

namespace Process.Decided

variable {log : List String} {first : Option (ClientBuilder × TransportConfig)}
  {build offeredBuild : ClientBuilder} {config offered : TransportConfig} {reason : String}
  {p : Process} {thread : Nat} {call : TransportCall}

/-- A call that would set the transport up finds what was decided. -/
theorem install_eq (h : Decided log first p)
    (hfirst : first.or call.setsUp? = some (build, config))
    (hoffered : call.setsUp? = some (offeredBuild, offered)) :
    p.setup.install offeredBuild offered = Setup.outcome build config := by
  rw [h.setup, Setup.install_decided, ← hoffered, hfirst]
  rfl

theorem served (h : Decided log first p) (hfirst : first.or call.setsUp? = some (build, config))
    (hbuilt : build config = .ok ()) :
    Served config p.gates (p.engine thread) call (p.step thread call).1 := by
  have hinstalled {offeredBuild offered} (hoffered : call.setsUp? = some (offeredBuild, offered)) :
      p.setup.install offeredBuild offered = .installed config := by
    rw [h.install_eq hfirst hoffered, Setup.outcome_of_ok hbuilt]
  rcases step_cases thread call p with
    ⟨env, offered, -, hnone, -⟩ | ⟨f, hf, hoffered, hrun, -⟩
  · cases call with
    | install env other =>
      have hsetup : p.setup.install env.build other = .installed config := hinstalled rfl
      simp only [Process.step, Engine.install, Process.engine, hsetup]
      exact .installed
    | newClient env keys service =>
      have hsetup : p.setup.install env.build {} = .installed config := hinstalled rfl
      simp only [Process.step, Client.create, Engine.install, Process.engine, hsetup]
      exact .client
    | fetch | fetchOne | gateFetch | gateFetchOne => cases hnone
  · refine .fetched hf hrun fun hne hfree => ?_
    rw [hne] at hoffered
    have hsetup : (p.engine thread).setup.install f.env.build {} = .installed config :=
      hinstalled hoffered
    have hconfig := Setup.config_eq_ok_iff.mpr hsetup
    refine ⟨?_, ?_⟩
    · rw [Fetching.run, Engine.fetch_of_free hne hconfig hfree, Engine.ready, hsetup]
      rfl
    · have hready := (h.engines thread).install f.env {}
      refine (Batch.run_built (b := f.batch config) (P := (· = config)) hready.custody rfl
        fun a ha => ?_).1
      exact Setup.installed.inj ((hready.built a ha).symm.trans hsetup)

theorem refused (h : Decided log first p) (hfirst : first.or call.setsUp? = some (build, config))
    (hfailing : build config = .error reason) :
    Refused (Setup.notBuilt reason) p.gates call (p.step thread call).1 := by
  have hfailed {offeredBuild offered} (hoffered : call.setsUp? = some (offeredBuild, offered)) :
      p.setup.install offeredBuild offered = .failed (Setup.notBuilt reason) := by
    rw [h.install_eq hfirst hoffered, Setup.outcome_of_error hfailing]
  rcases step_cases thread call p with
    ⟨env, offered, -, hnone, -⟩ | ⟨f, hf, hoffered, hrun, -⟩
  · cases call with
    | install env other =>
      have hsetup : p.setup.install env.build other = .failed (Setup.notBuilt reason) := hfailed rfl
      simp only [Process.step, Engine.install, Process.engine, hsetup]
      exact .installed
    | newClient env keys service =>
      have hsetup : p.setup.install env.build {} = .failed (Setup.notBuilt reason) := hfailed rfl
      simp only [Process.step, Client.create, Engine.install, Process.engine, hsetup]
      exact .client
    | fetch | fetchOne | gateFetch | gateFetchOne => cases hnone
  · have hengine : f.urls.isEmpty = false →
        (p.engine thread).setup.install f.env.build {} = .failed (Setup.notBuilt reason) := by
      intro hne
      rw [hne] at hoffered
      exact hfailed hoffered
    obtain ⟨hentries, hstarted⟩ := f.run_refused hengine
    refine .fetched hf hrun hentries hstarted fun found hdocument => ?_
    obtain ⟨f', url, hf', hurls, hfound⟩ := step_document hdocument
    obtain rfl : f = f' := Option.some.inj (hf.symm.trans hf')
    have hurl : url ∈ f.urls.items := by
      rw [hurls]
      exact List.mem_singleton_self url
    rw [hfound, hentries url hurl]
    rfl

/-- All handles ever made are idle, and built from the configuration that is installed. -/
theorem handles_config (h : Decided log (some (build, config)) p) (hbuilt : build config = .ok ())
    (t : Nat) : (p.pools t).idle.size = (p.pools t).created ∧
      ∀ a ∈ (p.pools t).handles, a.config = config := by
  refine ⟨(h.engines t).custody.length_eq, fun a ha => ?_⟩
  have hinstalled : p.setup = .installed a.config := (h.engines t).built a ha
  rw [h.setup, Setup.decided, Option.elim_some, Setup.outcome_of_ok hbuilt] at hinstalled
  exact (Setup.installed.inj hinstalled).symm

/-- Without a configuration that works nothing was sent and no handle made. -/
theorem nothing_made (h : Decided log (some (build, config)) p)
    (hfailing : build config = .error reason) : p.log = log ∧ ∀ t, (p.pools t).created = 0 := by
  have hfailed : ∀ config', p.setup ≠ .installed config' := by
    simp [h.setup, Setup.decided, Setup.outcome_of_error hfailing]
  refine ⟨(h.engines 0).quiet hfailed, fun t => ?_⟩
  have hnone : (p.pools t).handles = [] :=
    List.eq_nil_iff_forall_not_mem.mpr fun a ha => hfailed _ ((h.engines t).built a ha)
  have hidle : (p.pools t).idle.size = (p.pools t).created := (h.engines t).custody.length_eq
  rw [← hidle, SortedMap.size]
  simpa [Pool.handles] using hnone

end Process.Decided

/-- A fetch of no URL leaves everything but clocks as it was. -/
theorem Process.alike_step_of_setsUp?_none {p : Process} {thread : Nat} {call : TransportCall}
    (h : call.setsUp? = none) : Alike p (p.step thread call).2 := by
  rcases step_cases thread call p with ⟨env, config, hconfig, -⟩ | ⟨f, -, hconfig, -, halike⟩
  · rw [h] at hconfig
    contradiction
  · have hempty : f.urls.isEmpty = true := by
      rw [h] at hconfig
      by_contra hne
      simp [hne] at hconfig
    rwa [Fetching.run, Engine.fetch_of_isEmpty hempty, keep_engine] at halike

/-- **The first set-up wins.** In a process whose transport was never set up, a fetch of no URL does
not set it up, and all later calls tell the same without it. Any other call finds the configuration
of the first such call installed, if a client was built from it: then it is served, and all handles
ever made, on any thread, are built from that configuration. If none could be built, each call tells
the reason there was then, whichever configuration it brings and whatever could be built from that,
nothing is sent and no handle is made. -/
theorem first_setup_wins (gates : Nat → Gate) (log : List String) (now : Instant)
    (before : List (Nat × TransportCall)) (thread : Nat) (call : TransportCall) :
    let p := (Process.fresh gates log now).after before
    let r := p.step thread call
    (call.setsUp? = none →
      r.2.setup = p.setup ∧ ∀ later, r.2.reports later = p.reports later) ∧
    ∀ build config, decisive? (before ++ [(thread, call)]) = some (build, config) →
      (build config = .ok () →
        Served config p.gates (p.engine thread) call r.1 ∧
        ∀ t, (r.2.pools t).idle.size = (r.2.pools t).created ∧
          ∀ h ∈ (r.2.pools t).handles, h.config = config) ∧
      ∀ reason, build config = .error reason →
        Refused (Setup.notBuilt reason) p.gates call r.1 ∧
        r.2.log = log ∧ ∀ t, (r.2.pools t).created = 0 := by
  intro p r
  have hbefore : p.Decided log (decisive? before) := Process.after_decided gates log now before
  refine ⟨fun hnone => ?_, fun build config hfirst => ?_⟩
  · have halike : p.Alike r.2 := Process.alike_step_of_setsUp?_none hnone
    exact ⟨halike.setup.symm, fun later => (halike.reports later).symm⟩
  rw [decisive?_snoc] at hfirst
  have hafter : r.2.Decided log (some (build, config)) := hfirst ▸ hbefore.step thread call
  exact ⟨fun hbuilt => ⟨hbefore.served hfirst hbuilt, hafter.handles_config hbuilt⟩,
    fun _ hfailing => ⟨hbefore.refused hfirst hfailing, hafter.nothing_made hfailing⟩⟩

/-! Two set-ups on different threads, between fetches: only one of them has a user agent that can be
sent. And a process that lacks what its first fetch needs to set the transport up. -/
namespace TwoSetups

def broken : TransportConfig := { userAgent := "line\nbreak" }

def plain : TransportConfig := { gzip := false }

/-- Clients that send a user agent on one line can be built. -/
def oneLine : ClientBuilder := fun config =>
  if config.userAgent.toList.contains '\n' then .error "builder error" else .ok ()

def env : Environment where
  network := .ofScript fun _ _ => ⟨[[0x31]], .done⟩
  build := oneLine

/-- Nothing can be built yet. -/
def early : Environment := { env with build := fun _ => .error "no TLS backend" }

def nothing : TransportCall := .fetch env .free .empty 0 {}

def document : TransportCall := .gateFetchOne 0 env .free ⟨"http://a/"⟩

def process : Process := .fresh (fun _ => ⟨.service, none⟩) [] 0

end TwoSetups

open TwoSetups

theorem first_setup_wins_either :
    nothing.setsUp? = none ∧
    (decisive? [(0, nothing), (1, .install env broken), (2, .install env plain), (0, document)] =
        some (oneLine, broken) ∧ oneLine broken = .error "builder error" ∧
      Refused "failed to build HTTP client: builder error" process.gates document
        ((process.after [(0, nothing), (1, .install env broken), (2, .install env plain)]).step 0
          document).1) ∧
    (Refused "failed to build HTTP client: no TLS backend" process.gates (.install env plain)
      ((process.after [(0, .fetchOne early .free ⟨"http://a/"⟩ 1 {})]).step 1
        (.install env plain)).1) ∧
    decisive? [(0, nothing), (1, .install env plain), (2, .init env), (0, document)] =
        some (oneLine, plain) ∧
      oneLine plain = .ok () ∧
      ((process.after [(0, nothing), (1, .install env plain), (2, .init env),
        (0, document)]).pools 0).created = 1 ∧
      ∀ h ∈ ((process.after [(0, nothing), (1, .install env plain), (2, .init env),
        (0, document)]).pools 0).handles, h.config = plain := by
  have hbroken := ((first_setup_wins process.gates [] 0
    [(0, nothing), (1, .install env broken), (2, .install env plain)] 0 document).2 oneLine broken
      rfl).2 "builder error" rfl
  have hearly := ((first_setup_wins process.gates [] 0
    [(0, .fetchOne early .free ⟨"http://a/"⟩ 1 {})] 1 (.install env plain)).2 early.build {}
      rfl).2 "no TLS backend" rfl
  have hplain := ((first_setup_wins process.gates [] 0
    [(0, nothing), (1, .install env plain), (2, .init env)] 0 document).2 oneLine plain rfl).1 rfl
  exact ⟨rfl, ⟨rfl, rfl, hbroken.1⟩, hearly.1, rfl, rfl, rfl, (hplain.2 0).2⟩

end MarketData
