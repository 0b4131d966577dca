import MarketData.Proofs.Batch.Custody

/-! The configurations that handles are built from. A handle keeps its own through all batches, and
a new one gets that of its batch. So what holds of the configuration of a batch and of those of the
idle handles before it holds of all handles that it uses and leaves (`Batch.run_built`). -/

namespace MarketData

namespace Pool

variable {pool : Pool} {urls : List Url} {P : TransportConfig → Prop}

theorem takeBound_built (h : ∀ a ∈ pool.handles, P a.config) (urls : List Url) :
    ∀ a ∈ (pool.takeBound urls).2.handles ++ (pool.takeBound urls).1.1, P a.config := by
  induction urls generalizing pool with
  | nil => simpa [takeBound] using h
  | cons url urls ih =>
    cases hget : pool.idle.get? url with
    | none =>
      rw [takeBound_cons_of_none hget]
      exact ih h
    | some taken =>
      have hbuilt : ∀ a ∈ taken :: (pool.withdraw url).handles, P a.config := fun a ha =>
        h a ((handles_perm_withdraw hget).mem_iff.mpr ha)
      obtain ⟨htaken, hrest⟩ := List.forall_mem_cons.mp hbuilt
      rw [takeBound_cons_of_some hget]
      refine fun a ha => ?_
      rcases List.mem_cons.mp (List.perm_middle.mem_iff.mp ha) with rfl | ha
      · exact htaken
      · exact ih hrest a ha

variable {refuse : Url → Option TransportFault} {config : TransportConfig} {a a' : Acquired}
  {pool' : Pool} {url : Url}

/-- The handle of the next URL is one that was idle, or is built from `config`. -/
theorem Allots.built (s : Allots refuse config url pool a pool' a') (hconfig : P config)
    (h : ∀ b ∈ pool.handles ++ a.handles, P b.config) :
    ∀ b ∈ pool'.handles ++ a'.handles, P b.config := by
  cases s with
  | @rebind old taken hget =>
    intro b hb
    have hidle := handles_perm_withdraw hget
    simp only [Acquired.handles, List.mem_append, List.mem_singleton] at hb h
    rcases hb with hb | (hb | hb | rfl) | hb
    · exact h b (.inl (hidle.mem_iff.mpr (List.mem_cons_of_mem _ hb)))
    · exact h b (.inr (.inl (.inl hb)))
    · exact h b (.inr (.inl (.inr hb)))
    · exact h taken (.inl (hidle.mem_iff.mpr List.mem_cons_self))
    · exact h b (.inr (.inr hb))
  | refuse => exact h
  | create =>
    intro b hb
    simp only [Acquired.handles, List.mem_append, List.mem_singleton] at hb h
    rcases hb with hb | hb | hb | rfl
    · exact h b (.inl hb)
    · exact h b (.inr (.inl hb))
    · exact h b (.inr (.inr hb))
    · exact hconfig

theorem acquire_built {pick : Pool → Nat} {urls : UrlSet} (hconfig : P config)
    (h : ∀ b ∈ pool.handles, P b.config) :
    ∀ b ∈ (pool.acquire pick refuse config urls).2.handles ++
      (pool.acquire pick refuse config urls).1.handles, P b.config := by
  refine takeOthers_invariant (P := fun pool a _ => ∀ b ∈ pool.handles ++ a.handles, P b.config) []
    (fun s hbuilt => s.built hconfig hbuilt) ?_
  simpa [Acquired.handles] using takeBound_built h urls.items

theorem release_built {handles : List Handle} (hhandles : ∀ b ∈ handles, P b.config)
    (h : ∀ b ∈ pool.handles, P b.config) : ∀ b ∈ (pool.release handles).handles, P b.config := by
  induction handles generalizing pool with
  | nil => exact h
  | cons taken handles ih =>
    obtain ⟨htaken, hrest⟩ := List.forall_mem_cons.mp hhandles
    let filed : Pool := { pool with idle := pool.idle.insert taken.url taken.clear }
    have hfiled : ∀ b ∈ filed.handles, P b.config := by
      intro b hb
      obtain ⟨entry, hentry, rfl⟩ := List.mem_map.mp hb
      rcases Entries.mem_set_key hentry with rfl | hentry
      · exact htaken
      · exact h _ (List.mem_map_of_mem hentry)
    exact ih hrest hfiled

end Pool

namespace Batch

variable {b : Batch} {e : Engine} {P : TransportConfig → Prop}

theorem run_built (c : e.pool.Custody []) (hconfig : P b.config)
    (h : ∀ a ∈ e.pool.handles, P a.config) :
    (∀ a ∈ (b.acquired e).handles, P a.config) ∧
      ∀ a ∈ (b.run e).2.pool.handles, P a.config := by
  have hacquire : ∀ a ∈ (b.poolDuring e).handles ++ (b.acquired e).handles, P a.config :=
    Pool.acquire_built hconfig h
  obtain ⟨hidle, hacquired⟩ := List.forall_mem_append.mp hacquire
  refine ⟨hacquired, ?_⟩
  obtain ⟨seen, hreach, -, ha⟩ :=
    b.loop_rests c (I := fun _ _ => True) (fun _ _ => trivial) trivial
  have hperm := (b.books c hreach).finished_perm (hreach.queue_of_rest ha) ha
  rw [run_pool]
  refine Pool.release_built (fun a hmem => ?_) hidle
  obtain ⟨given, hgiven, rfl⟩ := List.mem_map.mp (hperm.mem_iff.mp hmem)
  exact hacquired given hgiven

end Batch

end MarketData
