import MarketData.Proofs.Batch.Basic
import MarketData.Proofs.Pool.Acquire

/-! Custody of the handles over a session: batch after batch on one thread, each with failures to
make a handle, rebindings and completions of its own. `Batch.Moment` lists the states that a batch
goes through; custody holds in each of them, so that a thread never loses or doubles a handle, and
never has more of them than its largest batch had URLs. -/

namespace MarketData

open Drive

namespace Batch

variable {b : Batch} {e : Engine} {pool : Pool} {inUse : List Handle}

/-- What was handed out, and the pool, when these of the URLs without a bound handle are served. -/
def allotted (b : Batch) (e : Engine) (served : List Url) : Acquired × Pool :=
  Pool.takeOthers b.env.pickIdle (b.env.refuse b.config) b.config
    (e.pool.takeBound b.urls.items).2 { bound := (e.pool.takeBound b.urls.items).1.1 } served

/-- The pool and the handles in use at some point of a batch: while URLs are matched with the
handles bound to them, while the others get theirs, while the loop drives the transfers, whatever
they bring and in whatever order they end, while the results are recorded, and while handles go
back. -/
inductive Moment (b : Batch) (e : Engine) : Pool → List Handle → Prop
  | matching : served <+: b.urls.items →
    Moment b e (e.pool.takeBound served).2 (e.pool.takeBound served).1.1
  | allotting : served <+: (e.pool.takeBound b.urls.items).1.2 →
    Moment b e (b.allotted e served).2 (b.allotted e served).1.handles
  | driving : Reaches b.policy b.maxConnections (b.acquired e).handles seen d →
    Moment b e (b.poolDuring e) d.handles
  | recording : Reaches b.policy b.maxConnections (b.acquired e).handles seen d →
    d.active = [] → d.finished = recorded ++ rest →
    Moment b e (b.poolDuring e) (recorded.map (·.1.clear) ++ rest.map (·.1))
  | releasing : Reaches b.policy b.maxConnections (b.acquired e).handles seen d →
    d.active = [] → d.finished.map (·.1.clear) = back ++ rest →
    Moment b e ((b.poolDuring e).release back) rest

/-! ## Within a batch -/

section

variable (c : e.pool.Custody [])
include c

theorem acquiring : Pool.Acquiring (b.env.refuse b.config) b.urls.items e.pool (b.poolDuring e)
    (b.acquired e) [] := c.acquire b.urls

theorem books {seen : History} {d : Drive}
    (h : Reaches b.policy b.maxConnections (b.acquired e).handles seen d) :
    Books b.policy (b.acquired e).handles seen d :=
  h.books (b.acquiring c).custody.ids_nodup (b.acquiring c).custody.urls_nodup
    (b.acquiring c).emptied

/-- What is kept by each request to a handle of the batch holds when its loop is at rest. -/
theorem loop_rests {I : History → List String → Prop}
    (hask : ∀ {seen log h}, h ∈ (b.acquired e).handles → I seen log →
      I (seen ++ [(h.url, (b.ask log h).transfer)]) (log ++ (b.ask log h).targets))
    (hI : I [] e.log) :
    ∃ seen, Reaches b.policy b.maxConnections (b.acquired e).handles seen (b.loop e).1 ∧
      I seen (b.loop e).2 ∧ (b.loop e).1.active = [] := by
  have hids := (b.acquiring c).custody.ids_nodup
  have hurls := (b.acquiring c).custody.urls_nodup
  have hempty := (b.acquiring c).emptied
  refine run_rests (fun hreach hflight hI => ?_) hids hurls hempty hI rfl
  exact hask (hreach.flight_mem hids hurls hempty hflight) hI

/-- The loop works on the handles that were acquired, no others. -/
theorem driving_custody {seen : History} {d : Drive}
    (h : Reaches b.policy b.maxConnections (b.acquired e).handles seen d) :
    (b.poolDuring e).Custody d.handles :=
  (b.acquiring c).custody.of_clear_perm (b.books c h).conserved

theorem finished_custody {seen : History} {d : Drive}
    (h : Reaches b.policy b.maxConnections (b.acquired e).handles seen d) (ha : d.active = []) :
    (b.poolDuring e).Custody (d.finished.map (·.1.clear)) := by
  refine (driving_custody c h).of_clear_perm (.of_eq ?_)
  simp [handles_map, places, h.queue_of_rest ha, ha, Function.comp_def]

theorem Moment.custody (m : b.Moment e pool inUse) : pool.Custody inUse := by
  cases m with
  | matching => simpa using c.takeBound _
  | allotting hprefix =>
    obtain ⟨rest, hothers⟩ := hprefix
    exact (c.acquiring b.urls.nodup hothers.symm).custody
  | driving h => exact driving_custody c h
  | recording h ha hfinished =>
    refine (finished_custody c h ha).of_clear_perm (.of_eq ?_)
    simp [hfinished, Function.comp_def]
  | releasing h ha hback => exact (hback ▸ finished_custody c h ha).release

/-- Every handle is idle again after the batch. -/
theorem run_custody : (b.run e).2.pool.Custody [] := by
  obtain ⟨seen, hreach, -, ha⟩ :=
    b.loop_rests c (I := fun _ _ => True) (fun _ _ => trivial) trivial
  rw [run_pool]
  exact (Moment.releasing hreach ha (List.append_nil _).symm).custody c

/-- A batch makes the handles that it lacks. -/
theorem run_created : (b.run e).2.pool.created ≤ max e.pool.created b.urls.size ∧
    ((b.acquired e).refused = [] →
      (b.run e).2.pool.created = max e.pool.created b.urls.size) := by
  have q := b.acquiring c
  have hcreated : (b.run e).2.pool.created = (b.poolDuring e).created := by rw [run_pool]; rfl
  have hall := q.custody.length_eq
  have hserved : (b.acquired e).handles.length + (b.acquired e).refused.length = b.urls.size := by
    simpa [Distinct.size] using q.served.length_eq
  obtain ⟨hle, hmade⟩ := q.made
  have hmade : (b.poolDuring e).created = e.pool.created ∨ (b.poolDuring e).idle.size = 0 := by
    refine hmade.imp_right fun hnil => ?_
    rw [← List.length_eq_zero_iff, Pool.handles, List.length_map] at hnil
    exact hnil
  rw [hcreated]
  refine ⟨by omega, fun hrefused => ?_⟩
  rw [hrefused, List.length_nil] at hserved
  omega

theorem refused_eq_nil (hmake : ∀ url, b.env.refuse b.config url = none) :
    (b.acquired e).refused = [] := by
  refine List.eq_nil_iff_forall_not_mem.mpr fun p hp => ?_
  have hrefuse := (b.acquiring c).refusals p hp
  rw [hmake] at hrefuse
  contradiction

end

/-- The number of URLs of the largest batch. -/
def largest (batches : List Batch) : Nat := batches.foldl (fun n b => max n b.urls.size) 0

theorem largest_snoc (batches : List Batch) (b : Batch) :
    largest (batches ++ [b]) = max (largest batches) b.urls.size := by
  simp [largest]

end Batch

/-! ## Over a session -/

namespace Engine

theorem after_snoc (e : Engine) (batches : List Batch) (b : Batch) :
    e.after (batches ++ [b]) = (b.run (e.after batches)).2 := by
  simp [after]

variable (setup : Setup) (log : List String)

theorem after_custody (batches : List Batch) :
    (after { setup, log } batches).pool.Custody [] := by
  induction batches using List.reverseRecOn with
  | nil => exact .empty
  | append_singleton batches b ih =>
    rw [after_snoc]
    exact Batch.run_custody ih

theorem created_le_largest (batches : List Batch) :
    (after { setup, log } batches).pool.created ≤ Batch.largest batches := by
  induction batches using List.reverseRecOn with
  | nil => exact Nat.le_refl _
  | append_singleton batches b ih =>
    rw [after_snoc, Batch.largest_snoc]
    exact Nat.le_trans (Batch.run_created (after_custody ..)).1 (by omega)

theorem created_eq_largest (batches : List Batch)
    (hmade : ∀ before b rest, batches = before ++ b :: rest →
      (b.acquired (after { setup, log } before)).refused = []) :
    (after { setup, log } batches).pool.created = Batch.largest batches := by
  induction batches using List.reverseRecOn with
  | nil => rfl
  | append_singleton batches b ih =>
    rw [after_snoc, Batch.largest_snoc,
      (Batch.run_created (after_custody ..)).2 (hmade batches b [] rfl),
      ih fun before b' rest heq => hmade before b' (rest ++ [b]) (by simp [heq])]

end Engine

/-- **Custody over a session.** After any batches on one thread, and at every point of the next one,
the idle handles and those in use are all that were ever made, each once; no two serve one URL, and
an idle handle is empty and filed under its own URL, so that none in use would take its place. After
each batch all are idle, and there are no more of them than the largest batch had URLs; there are as
many, if none could not be made. -/
theorem session_custody (setup : Setup) (log : List String) (batches : List Batch) :
    let e := Engine.after { setup, log } batches
    (∀ (b : Batch) pool inUse, b.Moment e pool inUse →
      pool.Custody inUse ∧ ∀ h ∈ inUse, pool.idle.get? h.url = none) ∧
    e.pool.idle.size = e.pool.created ∧
    e.pool.created ≤ Batch.largest batches ∧
    ((∀ before b rest, batches = before ++ b :: rest →
      (b.acquired (Engine.after { setup, log } before)).refused = []) →
      e.pool.created = Batch.largest batches) := by
  have c := Engine.after_custody setup log batches
  refine ⟨fun b pool inUse m => ?_, c.length_eq, Engine.created_le_largest setup log batches,
    Engine.created_eq_largest setup log batches⟩
  have hheld := m.custody c
  exact ⟨hheld, fun h hm => hheld.get?_of_inUse hm⟩

/-! A batch of two URLs, and one that has the second of them in common with it. -/
namespace Overlap

def batch (urls : UrlSet) : Batch where
  env := { network := .ofScript fun _ _ => ⟨[[0x31]], .done⟩ }
  config := {}
  urls
  maxConnections := 1
  policy := {}

def first : Batch := batch ⟨[⟨"http://a/"⟩, ⟨"http://b/"⟩], by decide⟩

def second : Batch := batch ⟨[⟨"http://b/"⟩, ⟨"http://c/"⟩], by decide⟩

end Overlap

theorem session_custody_overlap :
    let e := Engine.after {} [Overlap.first]
    e.pool.created = 2 ∧
      (Overlap.second.poolDuring e).Custody (Overlap.second.acquired e).handles :=
  have session := session_custody .pending [] [Overlap.first]
  have matched := session.2.2.2 fun before b rest heq => by
    obtain ⟨rfl, rfl, rfl⟩ : before = [] ∧ b = Overlap.first ∧ rest = [] := by
      cases before <;> simp_all
    rfl
  ⟨matched, (session.1 Overlap.second _ _ (.allotting (List.prefix_refl _))).1⟩

end MarketData
