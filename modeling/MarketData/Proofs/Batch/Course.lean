import MarketData.Proofs.Batch.Built
import MarketData.Proofs.Batch.Endings
import MarketData.Proofs.Batch.Paths
import MarketData.Proofs.Batch.Schedule

/-! The course of a batch: its exchanges with the network, one after the other. Each is answered
after the targets of all before it, so the network and the order of the attempts settle what every
attempt brings (`Network.Course`). Where all attempts are for one URL, their order is no choice
either: the n-th brings `Network.reply` (`Course.scripted`), and these replies settle a batch of
this URL (`Batch.entry_of_replies`). -/

namespace MarketData

open Drive

namespace Network

/-- The network brought these attempts one after the other, each to a handle built from what `held`
has for its URL; meanwhile the log of targets went on from `log` to where it ends. -/
inductive Course (network : Network) (held : Url → TransportConfig) (log : List String) :
    History → List String → Prop
  | start : Course network held log [] log
  | exchange (url : Url) : Course network held log seen log' →
    Course network held log (seen ++ [(url, (network.answer (held url) log' url).transfer)])
      (log' ++ (network.answer (held url) log' url).targets)

/-- The log of targets after `n` requests for one URL. -/
def logAfter (network : Network) (config : TransportConfig) (log : List String) (url : Url) :
    Nat → List String
  | 0 => log
  | n + 1 =>
    network.logAfter config log url n ++
      (network.answer config (network.logAfter config log url n) url).targets

/-- What the n-th of them brings. -/
def reply (network : Network) (config : TransportConfig) (log : List String) (url : Url)
    (n : Nat) : Transfer :=
  (network.answer config (network.logAfter config log url n) url).transfer

/-- Attempts at one URL are replies to it in turn. -/
theorem Course.scripted {network : Network} {held : Url → TransportConfig}
    {config : TransportConfig} {log log' : List String} {seen : History} {url : Url}
    (h : network.Course held log seen log') (hall : ∀ p ∈ seen, p.1 = url)
    (hheld : held url = config) :
    Scripted (network.reply config log) seen ∧
      log' = network.logAfter config log url (attemptsAt url seen).length := by
  induction h with
  | start => exact ⟨.nil, rfl⟩
  | @exchange seen log' next hcourse ih =>
    obtain ⟨hearlier, hnext⟩ := List.forall_mem_append.mp hall
    obtain rfl : next = url := hnext _ List.mem_cons_self
    obtain ⟨hscripted, hlog⟩ := ih hearlier
    rw [hheld, attemptsAt_snoc_self, List.length_append, List.length_singleton]
    have hreply : (network.answer config log' next).transfer =
        network.reply config log next (attemptsAt next seen).length := by rw [reply, ← hlog]
    refine ⟨?_, by rw [logAfter, ← hlog]⟩
    rw [hreply]
    exact hscripted.snoc next

end Network

namespace Batch

variable {b : Batch} {e : Engine} {url : Url}

/-- The configuration of the handle that serves a URL. -/
def held (b : Batch) (e : Engine) (url : Url) : TransportConfig :=
  ((b.acquired e).handles.find? (·.url = url)).elim b.config (·.config)

section

variable (c : e.pool.Custody [])
include c

theorem held_eq {h : Handle} (hmem : h ∈ (b.acquired e).handles) : b.held e h.url = h.config := by
  have hurls := (b.acquiring c).custody.urls_nodup
  unfold held
  cases hfind : (b.acquired e).handles.find? (·.url = h.url) with
  | none =>
    have hnone := List.find?_eq_none.mp hfind h hmem
    simp at hnone
  | some found =>
    have hurl : found.url = h.url := by simpa using List.find?_some hfind
    obtain rfl := List.inj_on_of_nodup_map hurls (List.mem_of_find?_eq_some hfind) hmem hurl
    rfl

/-- What holds of the configurations of a batch and of the idle handles holds of those held. -/
theorem held_built {P : TransportConfig → Prop} (hconfig : P b.config)
    (h : ∀ a ∈ e.pool.handles, P a.config) (url : Url) : P (b.held e url) := by
  unfold held
  cases hfind : (b.acquired e).handles.find? (·.url = url) with
  | none => exact hconfig
  | some found => exact (b.run_built c hconfig h).1 found (List.mem_of_find?_eq_some hfind)

/-- The loop takes the batch through such a course, and comes to rest. -/
theorem loop_course : ∃ seen,
    Reaches b.policy b.maxConnections (b.acquired e).handles seen (b.loop e).1 ∧
      b.env.network.Course (b.held e) e.log seen (b.run e).2.log ∧ (b.loop e).1.active = [] := by
  refine b.loop_rests c (I := fun seen log => b.env.network.Course (b.held e) e.log seen log)
    (fun {seen log h} hmem hcourse => ?_) .start
  have hstep := hcourse.exchange h.url
  rwa [held_eq c hmem] at hstep

/-! ## One URL -/

/-- On handles of its configuration a batch of one URL asks for nothing else, and each request gets
the next of the replies. -/
theorem loop_one (hbuilt : ∀ a ∈ e.pool.handles, a.config = b.config)
    (hurls : b.urls.items = [url]) :
    ∃ seen, Reaches b.policy b.maxConnections (b.acquired e).handles seen (b.loop e).1 ∧
      (b.loop e).1.active = [] ∧ Scripted (b.env.network.reply b.config e.log) seen ∧
      (b.run e).2.log =
        b.env.network.logAfter b.config e.log url (attemptsAt url seen).length ∧
      (b.run e).1.started = List.replicate (attemptsAt url seen).length url := by
  obtain ⟨seen, hreach, hcourse, ha⟩ := b.loop_course c
  have hstarted : ∀ u ∈ (b.run e).1.started, u = url := by
    intro u hu
    have hmem := mem_urls_of_started c hu
    rwa [hurls, List.mem_singleton] at hmem
  have hall : ∀ p ∈ seen, p.1 = url := by
    intro p hp
    refine hstarted p.1 (List.count_pos_iff.mp ?_)
    rw [started_count c hreach ha]
    exact List.length_pos_of_mem (mem_attemptsAt.mpr hp)
  have hheld : b.held e url = b.config := held_built (P := (· = b.config)) c rfl hbuilt url
  obtain ⟨hscripted, hlog⟩ := hcourse.scripted hall hheld
  refine ⟨seen, hreach, ha, hscripted, hlog, ?_⟩
  rw [← started_count c hreach ha, List.count_eq_length.mpr fun u hu => (hstarted u hu).symm]
  exact List.eq_replicate_of_mem hstarted

/-- If a handle can be made, the replies settle the URL. -/
theorem entry_of_replies (hbuilt : ∀ a ∈ e.pool.handles, a.config = b.config)
    (hurls : b.urls.items = [url]) (hmade : b.env.refuse b.config url = none) :
    (b.run e).1.results.entries.get? url =
      some (b.policy.entry (b.env.network.reply b.config e.log url)) := by
  obtain ⟨seen, hreach, -, hscripted, -⟩ := b.loop_one c hbuilt hurls
  have hmem : url ∈ b.urls.items := hurls ▸ List.mem_singleton_self url
  obtain ⟨entry, hget, hends⟩ := run_ends c hreach hmem
  have hreplies := hscripted url
  rw [hget]
  generalize attemptsAt url seen = attempts at hends hreplies
  cases hends with
  | refused hrefuse =>
    rw [hmade] at hrefuse
    contradiction
  | concluded hconcludes => rw [(hconcludes.of_replies hreplies).2]

end

end Batch

/-- What holds of the configurations of all batches holds of those of the idle handles. -/
theorem Engine.after_built {P : TransportConfig → Prop} (setup : Setup) (log : List String)
    (batches : List Batch) (h : ∀ b ∈ batches, P b.config) :
    ∀ a ∈ (after { setup, log } batches).pool.handles, P a.config := by
  induction batches using List.reverseRecOn with
  | nil => exact fun _ hmem => absurd hmem List.not_mem_nil
  | append_singleton batches b ih =>
    obtain ⟨hearlier, hlast⟩ := List.forall_mem_append.mp h
    rw [after_snoc]
    exact (Batch.run_built (after_custody ..) (hlast b List.mem_cons_self) (ih hearlier)).2

end MarketData
