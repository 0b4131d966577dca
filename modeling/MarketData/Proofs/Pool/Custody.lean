import MarketData.Pool
import MarketData.Proofs.Attempts
import MarketData.Proofs.SortedMap

/-! Who holds the handles of a thread. `Pool.Custody` says that the idle handles of a pool and those
in use are all the handles it created, each once, with distinct URLs, and that an idle handle is
empty and filed under its own URL. Taking a handle out, rebinding it, making one and taking one back
keep custody, and so do `Pool.acquire` and `Pool.release`, which are made of these. -/

namespace MarketData

namespace Pool

variable {pool : Pool} {inUse inUse' : List Handle} {url : Url} {h : Handle}

/-- The idle handles. -/
def handles (pool : Pool) : List Handle := pool.idle.entries.map (·.2)

/-- The pool without the handle filed under `url`. -/
def withdraw (url : Url) (pool : Pool) : Pool := { pool with idle := pool.idle.erase url }

structure Custody (pool : Pool) (inUse : List Handle) : Prop where
  filed : ∀ url h, pool.idle.get? url = some h → h.url = url
  emptied : ∀ h ∈ pool.handles, h.buffer = []
  urls : ((pool.handles ++ inUse).map (·.url)).Nodup
  ids : ((pool.handles ++ inUse).map (·.id)).Perm (List.range pool.created)

theorem mem_handles_of_get? (hget : pool.idle.get? url = some h) : h ∈ pool.handles :=
  List.mem_map_of_mem (f := (·.2)) (SortedMap.mem_entries.mpr hget)

theorem handles_perm_withdraw (hget : pool.idle.get? url = some h) :
    pool.handles.Perm (h :: (pool.withdraw url).handles) := by
  have hperm := (SortedMap.entries_perm_cons_erase hget).map (·.2)
  rwa [List.map_cons] at hperm

/-! ## Single steps -/

namespace Custody

theorem empty : Custody .empty [] where
  filed := fun _ _ hget => by simp [Pool.empty] at hget
  emptied := fun _ hm => by simp [Pool.empty, Pool.handles, EmptyCollection.emptyCollection,
    SortedMap.empty] at hm
  urls := .nil
  ids := .nil

/-- Buffers and the order of the handles in use do not matter. -/
theorem of_clear_perm (c : Custody pool inUse)
    (hperm : (inUse'.map Handle.clear).Perm (inUse.map Handle.clear)) : Custody pool inUse' where
  filed := c.filed
  emptied := c.emptied
  urls := by
    have hmap : (inUse'.map (·.url)).Perm (inUse.map (·.url)) := by
      simpa [Function.comp_def] using hperm.map (·.url)
    have := c.urls
    rw [List.map_append] at this ⊢
    exact (hmap.append_left _).nodup_iff.mpr this
  ids := by
    have hmap : (inUse'.map (·.id)).Perm (inUse.map (·.id)) := by
      simpa [Function.comp_def] using hperm.map (·.id)
    have := c.ids
    rw [List.map_append] at this ⊢
    exact (hmap.append_left _).trans this

theorem perm (c : Custody pool inUse) (hperm : inUse'.Perm inUse) : Custody pool inUse' :=
  c.of_clear_perm (hperm.map _)

theorem length_eq (c : Custody pool inUse) :
    pool.idle.size + inUse.length = pool.created := by
  simpa [Pool.handles, SortedMap.size] using c.ids.length_eq

theorem urls_nodup_idle (c : Custody pool inUse) : (pool.handles.map (·.url)).Nodup :=
  (List.nodup_append.mp (List.map_append ▸ c.urls)).1

theorem urls_nodup (c : Custody pool inUse) : (inUse.map (·.url)).Nodup :=
  (List.nodup_append.mp (List.map_append ▸ c.urls)).2.1

theorem ids_nodup (c : Custody pool inUse) : (inUse.map (·.id)).Nodup :=
  (List.nodup_append.mp (List.map_append ▸ c.ids.nodup_iff.mpr List.nodup_range)).2.1

theorem get?_of_mem (c : Custody pool inUse) (hm : h ∈ pool.handles) :
    pool.idle.get? h.url = some h := by
  obtain ⟨⟨url, h'⟩, hentry, rfl⟩ := List.mem_map.mp hm
  have hget := SortedMap.mem_entries.mp hentry
  rwa [c.filed url h' hget]

/-- Nothing is filed under the URL of a handle in use. -/
theorem get?_of_inUse (c : Custody pool inUse) (hm : h ∈ inUse) :
    pool.idle.get? h.url = none := by
  have hurls := c.urls
  rw [List.map_append, List.nodup_append] at hurls
  refine Option.eq_none_iff_forall_ne_some.mpr fun h' hget => ?_
  exact hurls.2.2 _ (List.mem_map_of_mem (mem_handles_of_get? hget)) _ (List.mem_map_of_mem hm)
    (c.filed _ _ hget)

theorem withdraw (c : Custody pool inUse) (hget : pool.idle.get? url = some h) :
    Custody (pool.withdraw url) (h :: inUse) := by
  have hperm : ((pool.withdraw url).handles ++ h :: inUse).Perm (pool.handles ++ inUse) :=
    List.perm_middle.trans ((handles_perm_withdraw hget).symm.append_right inUse)
  refine ⟨fun url' h' hget' => ?_, fun h' hm => ?_, ?_, ?_⟩
  · rw [Pool.withdraw, SortedMap.get?_erase] at hget'
    split at hget'
    · contradiction
    · exact c.filed url' h' hget'
  · exact c.emptied h' ((handles_perm_withdraw hget).mem_iff.mpr (List.mem_cons_of_mem _ hm))
  · exact (hperm.map _).nodup_iff.mpr c.urls
  · exact (hperm.map _).trans c.ids

/-- A handle in use may serve any URL that no other handle is bound to. -/
theorem rebind (c : Custody pool (h :: inUse))
    (hnew : url ∉ (pool.handles ++ inUse).map (·.url)) :
    Custody pool (h.rebind url :: inUse) where
  filed := c.filed
  emptied := c.emptied
  urls := by
    have hold := (List.perm_middle.map _).nodup_iff.mp c.urls
    refine (List.perm_middle.map _).nodup_iff.mpr ?_
    exact List.nodup_cons.mpr ⟨hnew, (List.nodup_cons.mp hold).2⟩
  ids := by simpa using c.ids

theorem create (c : Custody pool inUse) (config : TransportConfig)
    (hnew : url ∉ (pool.handles ++ inUse).map (·.url)) :
    Custody { pool with created := pool.created + 1 }
      ({ id := pool.created, url, config } :: inUse) where
  filed := c.filed
  emptied := c.emptied
  urls := (List.perm_middle.map _).nodup_iff.mpr (List.nodup_cons.mpr ⟨hnew, c.urls⟩)
  ids := by
    refine (List.perm_middle.map _).trans ?_
    rw [List.range_succ]
    exact (c.ids.cons _).trans (List.perm_append_singleton ..).symm

/-- A handle goes back to where no other is filed. -/
theorem file (c : Custody pool (h :: inUse)) :
    Custody { pool with idle := pool.idle.insert h.url h.clear } inUse := by
  have hurls := (List.perm_middle.map _).nodup_iff.mp c.urls
  have hfree := c.get?_of_inUse List.mem_cons_self
  have hentries := (SortedMap.entries_insert_perm (v := h.clear) hfree).map (·.2)
  have hperm : (((pool.idle.insert h.url h.clear).entries.map (·.2)) ++ inUse).Perm
      (h.clear :: (pool.handles ++ inUse)) := hentries.append_right inUse
  refine ⟨fun url' h' hget' => ?_, fun h' hm => ?_, ?_, ?_⟩
  · rw [SortedMap.get?_insert] at hget'
    split at hget'
    · rw [← Option.some.inj hget', ‹url' = _›, Handle.clear_url]
    · exact c.filed url' h' hget'
  · rcases List.mem_cons.mp (hentries.mem_iff.mp hm) with rfl | hm
    · rfl
    · exact c.emptied h' hm
  · exact (hperm.map _).nodup_iff.mpr hurls
  · have hids := (List.perm_middle.map Handle.id).symm.trans c.ids
    exact (hperm.map _).trans hids

end Custody

end Pool

end MarketData
