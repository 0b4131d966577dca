import MarketData.Proofs.Pool.Acquire

/-! The tiers in which a batch gets its handles. Every URL that an idle handle is bound to takes
that handle; of the others, the first take idle handles of other URLs, in any choice, and once none
is idle the rest get new ones or are refused. `Pool.Tiers` follows this URL by URL. It asks of the
pool only that each idle handle is filed under its own URL; what a handle holds, and whether ids
repeat, does not matter. -/

namespace MarketData

namespace Pool

section

variable {pool pool' before : Pool} {a a' : Acquired} {url : Url} {urls late rest : List Url}
  {taken : List (Handle × Url)}

/-! ## URLs with a handle of their own -/

theorem get?_withdraw_of_ne {other : Url} (h : other ≠ url) :
    (pool.withdraw url).idle.get? other = pool.idle.get? other := by
  rw [withdraw, SortedMap.get?_erase, if_neg h]

theorem takeBound_bound (hnodup : urls.Nodup) :
    (pool.takeBound urls).1.1 = urls.filterMap pool.idle.get? := by
  induction urls generalizing pool with
  | nil => rfl
  | cons url rest ih =>
    obtain ⟨hnew, hrest⟩ := List.nodup_cons.mp hnodup
    cases hget : pool.idle.get? url with
    | none =>
      rw [takeBound_cons_of_none hget, List.filterMap_cons_none hget]
      exact ih hrest
    | some h =>
      rw [takeBound_cons_of_some hget, List.filterMap_cons_some hget, ih hrest]
      refine congrArg (h :: ·) (List.filterMap_congr fun other hm => ?_)
      exact get?_withdraw_of_ne (ne_of_mem_of_not_mem hm hnew)

theorem takeBound_others (hnodup : urls.Nodup) :
    (pool.takeBound urls).1.2 = urls.filter fun url => (pool.idle.get? url).isNone := by
  induction urls generalizing pool with
  | nil => rfl
  | cons url rest ih =>
    obtain ⟨hnew, hrest⟩ := List.nodup_cons.mp hnodup
    cases hget : pool.idle.get? url with
    | none =>
      rw [takeBound_cons_of_none hget, List.filter_cons_of_pos (by simp [hget])]
      exact congrArg (url :: ·) (ih hrest)
    | some h =>
      rw [takeBound_cons_of_some hget, List.filter_cons_of_neg (by simp [hget]), ih hrest]
      refine List.filter_congr fun other hm => ?_
      rw [get?_withdraw_of_ne (ne_of_mem_of_not_mem hm hnew)]

/-- A handle is taken out or stays idle. -/
theorem takeBound_perm (urls : List Url) :
    ((pool.takeBound urls).1.1 ++ (pool.takeBound urls).2.handles).Perm pool.handles := by
  induction urls generalizing pool with
  | nil => exact .rfl
  | cons url rest ih =>
    cases hget : pool.idle.get? url with
    | none => rw [takeBound_cons_of_none hget]; exact ih
    | some h =>
      rw [takeBound_cons_of_some hget]
      exact (ih.cons h).trans (handles_perm_withdraw hget).symm

/-! ## Tier by tier -/

/-- The batch asks for `urls`. Of those without a handle of their own the first have got `taken`,
each an idle handle and the URL it serves now; for `late` handles were to be made; and `rest` are to
come. -/
structure Tiers (refuse : Url → Option TransportFault) (config : TransportConfig) (before : Pool)
    (urls : List Url) (taken : List (Handle × Url)) (late rest : List Url) (a : Acquired)
    (pool : Pool) : Prop where
  bound : a.bound = urls.filterMap before.idle.get?
  others : (urls.filter fun url => (before.idle.get? url).isNone) =
    taken.map (·.2) ++ late ++ rest
  rebound : a.rebound = taken.map fun p => p.1.rebind p.2
  fresh : a.fresh = (late.filter fun url => (refuse url).isNone).mapIdx fun i url =>
    { id := before.created + i, url, config }
  refused : a.refused = late.filterMap fun url => (refuse url).map (url, ·)
  /-- No URL of the batch loses a handle of its own. -/
  spare : ∀ p ∈ taken, ∃ old, old ∉ urls ∧ before.idle.get? old = some p.1
  /-- A handle that was idle is handed out or still idle. -/
  conserved : (a.bound ++ taken.map (·.1) ++ pool.handles).Perm before.handles
  untouched : ∀ url h, pool.idle.get? url = some h → url ∉ urls ∧ before.idle.get? url = some h
  created : pool.created = before.created + a.fresh.length
  /-- Handles are only made when none is idle. -/
  exhausted : late = [] ∨ pool.idle.entries = []

variable {refuse : Url → Option TransportFault} {config : TransportConfig}

theorem Tiers.start (hnodup : urls.Nodup) :
    Tiers refuse config pool urls [] [] (pool.takeBound urls).1.2
      { bound := (pool.takeBound urls).1.1 } (pool.takeBound urls).2 where
  bound := takeBound_bound hnodup
  others := (takeBound_others hnodup).symm
  rebound := rfl
  fresh := rfl
  refused := rfl
  spare := by simp
  conserved := by simpa using takeBound_perm urls
  untouched := by
    intro url h hget
    rw [takeBound_get?] at hget
    split at hget
    · contradiction
    · exact ⟨‹_›, hget⟩
  created := takeBound_created urls
  exhausted := .inl rfl

theorem Tiers.step (t : Tiers refuse config before urls taken late (url :: rest) a pool)
    (s : Allots refuse config url pool a pool' a') :
    ∃ taken' late', Tiers refuse config before urls taken' late' rest a' pool' := by
  cases s with
  | @rebind old h hget =>
    -- As a handle is idle, none was to be made so far.
    have hlate : late = [] := t.exhausted.resolve_right fun hnil => by
      have hm := SortedMap.mem_entries.mpr hget
      rw [hnil] at hm
      contradiction
    refine ⟨taken ++ [(h, url)], [], { t with
      others := ?_, rebound := ?_, fresh := ?_, refused := ?_, spare := ?_, conserved := ?_,
      untouched := ?_, exhausted := .inl rfl }⟩
    · simpa [hlate] using t.others
    · simp [t.rebound]
    · simpa [hlate] using t.fresh
    · simpa [hlate] using t.refused
    · refine List.forall_mem_append.mpr ⟨t.spare, List.forall_mem_singleton.mpr ⟨old, ?_⟩⟩
      exact t.untouched old h hget
    · refine List.Perm.trans ?_ t.conserved
      simpa using ((handles_perm_withdraw hget).symm.append_left (taken.map (·.1))).append_left _
    · intro url' h' hget'
      rw [withdraw, SortedMap.get?_erase] at hget'
      split at hget'
      · contradiction
      · exact t.untouched url' h' hget'
  | @refuse fault hnil hrefuse =>
    refine ⟨taken, late ++ [url], { t with
      others := ?_, fresh := ?_, refused := ?_, exhausted := .inr hnil }⟩
    · simpa using t.others
    · simpa [hrefuse] using t.fresh
    · simp [t.refused, hrefuse]
  | create hnil hrefuse =>
    refine ⟨taken, late ++ [url], { t with
      others := ?_, fresh := ?_, refused := ?_, created := ?_, exhausted := .inr hnil }⟩
    · simpa using t.others
    · rw [t.created, t.fresh, List.length_mapIdx, List.filter_append,
        List.filter_cons_of_pos (by simp [hrefuse]), List.filter_nil, List.mapIdx_concat]
    · simp [t.refused, hrefuse]
    · simp [t.created, Nat.add_assoc]

theorem acquire_tiers (pick : Pool → Nat) (refuse : Url → Option TransportFault)
    (config : TransportConfig) (urls : UrlSet) (pool : Pool) : ∃ taken late,
    Tiers refuse config pool urls.items taken late [] (pool.acquire pick refuse config urls).1
      (pool.acquire pick refuse config urls).2 :=
  takeOthers_invariant (P := fun pool' a rest => ∃ taken late,
      Tiers refuse config pool urls.items taken late rest a pool') []
    (fun s ⟨_, _, t⟩ => t.step s)
    ⟨[], [], (List.append_nil _).symm ▸ Tiers.start urls.nodup⟩

/-! ## What the batch has got -/

/-- The bound handles serve the URLs that had one. -/
theorem map_url_filterMap (filed : ∀ url h, before.idle.get? url = some h → h.url = url)
    (urls : List Url) : (urls.filterMap before.idle.get?).map (·.url) =
      urls.filter fun url => (before.idle.get? url).isSome := by
  induction urls with
  | nil => rfl
  | cons url urls ih =>
    cases hget : before.idle.get? url with
    | none =>
      rw [List.filterMap_cons_none hget, List.filter_cons_of_neg (by simp [hget])]
      exact ih
    | some h =>
      rw [List.filterMap_cons_some hget, List.filter_cons_of_pos (by simp [hget]), List.map_cons,
        filed url h hget, ih]

/-- The URLs that handles were to be made for got one or were refused it. -/
theorem made_or_refused_perm (refuse : Url → Option TransportFault) (late : List Url) :
    ((late.filter fun url => (refuse url).isNone) ++
      (late.filterMap fun url => (refuse url).map (url, ·)).map (·.1)).Perm late := by
  have hrefused : (late.filterMap fun url => (refuse url).map (url, ·)).map (·.1) =
      late.filter fun url => !(refuse url).isNone := by
    induction late with
    | nil => rfl
    | cons url late ih => cases hrefuse : refuse url <;> simp_all
  rw [hrefused]
  exact List.filter_append_perm _ late

namespace Tiers

variable (t : Tiers refuse config before urls taken late [] a pool)
include t

theorem fresh_urls : a.fresh.map (·.url) = late.filter fun url => (refuse url).isNone := by
  rw [t.fresh]
  refine List.ext_getElem (by simp) fun i hi hi' => ?_
  simp

theorem covered (filed : ∀ url h, before.idle.get? url = some h → h.url = url) :
    (a.handles.map (·.url) ++ a.refused.map (·.1)).Perm urls := by
  have hothers := t.others
  rw [List.append_nil] at hothers
  have hlate := made_or_refused_perm refuse late
  have hhandles : a.handles.map (·.url) =
      (urls.filter fun url => (before.idle.get? url).isSome) ++ taken.map (·.2) ++
        late.filter fun url => (refuse url).isNone := by
    rw [Acquired.handles, List.map_append, List.map_append, t.bound, map_url_filterMap filed,
      t.fresh_urls, t.rebound, List.map_map]
    rfl
  rw [hhandles, t.refused]
  calc _ = _ := List.append_assoc ..
    _ |>.Perm _ := hlate.append_left _
    _ = _ ++ (taken.map (·.2) ++ late) := List.append_assoc ..
    _ |>.Perm _ := by
      rw [← hothers]
      simpa using List.filter_append_perm (fun url => (before.idle.get? url).isSome) urls

theorem rebound_length : a.rebound.length =
    min (urls.filter fun url => (before.idle.get? url).isNone).length
      (before.idle.size - a.bound.length) := by
  have hall := t.conserved.length_eq
  have hothers := congrArg List.length t.others
  have hidle : before.handles.length = before.idle.size := List.length_map ..
  simp only [List.length_append, List.length_map, List.append_nil] at hall hothers
  rw [t.rebound, List.length_map, hothers]
  rcases t.exhausted with hnil | hnil
  · rw [hnil, List.length_nil]
    omega
  · have hnone : pool.handles.length = 0 := by simp [handles, hnil]
    omega

theorem taken_urls (filed : ∀ url h, before.idle.get? url = some h → h.url = url) :
    ∀ p ∈ taken, p.1.url ∉ urls := by
  intro p hp
  obtain ⟨old, hold, hget⟩ := t.spare p hp
  rwa [filed old p.1 hget]

theorem matched (hnodup : urls.Nodup)
    (filed : ∀ url h, before.idle.get? url = some h → h.url = url) {h : Handle} (hm : url ∈ urls)
    (hget : before.idle.get? url = some h) :
    h ∈ a.bound ∧ ∀ h' ∈ a.handles, h'.url = url → h' = h := by
  have hbound : h ∈ a.bound := by
    rw [t.bound]
    exact List.mem_filterMap.mpr ⟨url, hm, hget⟩
  refine ⟨hbound, fun h' hh' hurl => ?_⟩
  have hnd : (a.handles.map (·.url)).Nodup :=
    (List.nodup_append.mp ((t.covered filed).nodup_iff.mpr hnodup)).1
  have hh : h ∈ a.handles := List.mem_append_left _ (List.mem_append_left _ hbound)
  exact List.inj_on_of_nodup_map hnd hh' hh (hurl.trans (filed url h hget).symm)

end Tiers

end

/-- **Handles in three tiers.** From a pool that files each idle handle under its own URL, and
whichever idle handles are rebound, every URL of a batch gets one handle bound to it or is refused
one. A URL with an idle handle gets that very handle. As many of the other URLs as there are handles
left get one of these, emptied. No handle is made, or refused, unless none is idle any more, and
handles that stay idle are as they were. -/
theorem acquire_in_tiers (pick : Pool → Nat) (refuse : Url → Option TransportFault)
    (config : TransportConfig) (urls : UrlSet) (pool : Pool)
    (filed : ∀ url h, pool.idle.get? url = some h → h.url = url) :
    let a := (pool.acquire pick refuse config urls).1
    let after := (pool.acquire pick refuse config urls).2
    (a.handles.map (·.url) ++ a.refused.map (·.1)).Perm urls.items ∧
    (∀ url ∈ urls.items, ∀ h, pool.idle.get? url = some h →
      h ∈ a.bound ∧ ∀ h' ∈ a.handles, h'.url = url → h' = h) ∧
    a.rebound.length = min (urls.items.filter fun url => (pool.idle.get? url).isNone).length
      (pool.idle.size - a.bound.length) ∧
    (∀ h ∈ a.rebound, h.buffer = []) ∧
    (after.idle.size = 0 ∨ after.created = pool.created) ∧
    ∃ taken late, Tiers refuse config pool urls.items taken late [] a after ∧
      ∀ p ∈ taken, p.1.url ∉ urls.items := by
  intro a after
  obtain ⟨taken, late, t⟩ := acquire_tiers pick refuse config urls pool
  refine ⟨t.covered filed, fun url hm h hget => t.matched urls.nodup filed hm hget,
    t.rebound_length, ?_, ?_, taken, late, t, t.taken_urls filed⟩
  · rw [t.rebound]
    exact List.forall_mem_map.mpr fun p _ => rfl
  · rcases t.exhausted with hlate | hnil
    · refine .inr (t.created.trans ?_)
      rw [t.fresh, hlate]
      rfl
    · exact .inl (congrArg List.length hnil)

/-! One handle is bound to a URL of the batch; the other still holds part of a body. -/
namespace Mixed

def url (name : String) : Url := ⟨"http://" ++ name ++ "/"⟩

def used : Handle := { id := 0, url := url "a", config := {}, buffer := [0x7B] }

def kept : Handle := { id := 1, url := url "b", config := {} }

def pool : Pool := ⟨(SortedMap.insert ∅ (url "a") used).insert (url "b") kept, 2⟩

def urls : UrlSet := ⟨[url "c", url "b", url "d", url "e"], by decide⟩

def refuse (u : Url) : Option TransportFault := if u = url "d" then some .noClient else none

theorem filed : ∀ u h, pool.idle.get? u = some h → h.url = u := by
  intro u h hget
  have hm : (u, h) ∈ [(url "a", used), (url "b", kept)] := SortedMap.mem_entries.mpr hget
  simp only [List.mem_cons, Prod.mk.injEq, List.not_mem_nil, or_false] at hm
  rcases hm with ⟨rfl, rfl⟩ | ⟨rfl, rfl⟩
  · rfl
  · rfl

end Mixed

theorem acquire_in_tiers_mixed :
    let a := (Mixed.pool.acquire (fun _ => 1) Mixed.refuse {} Mixed.urls).1
    a.bound = [Mixed.kept] ∧ a.rebound = [Mixed.used.rebind (Mixed.url "c")] ∧
      a.fresh = [{ id := 2, url := Mixed.url "e", config := {} }] ∧
      a.refused = [(Mixed.url "d", .noClient)] ∧
      (a.handles.map (·.url) ++ a.refused.map (·.1)).Perm Mixed.urls.items :=
  have tiers := acquire_in_tiers (fun _ => 1) Mixed.refuse {} Mixed.urls Mixed.pool Mixed.filed
  ⟨rfl, rfl, rfl, rfl, tiers.1⟩

end Pool

end MarketData
