import MarketData.Proofs.Pool.Custody

/-! How a batch gets its handles. `Pool.takeBound` withdraws handles that may be used as they are;
`Pool.takeOthers` serves each other URL in one step (`Allots`), and what all steps keep holds when
it is done (`takeOthers_invariant`). `Acquiring` is such an invariant: it begins with
`takeBound` and says in the end what `Pool.acquire` gives. -/

namespace MarketData

namespace Pool

variable {pool pool' : Pool} {inUse : List Handle} {url : Url} {urls rest : List Url}

/-! ## Bound handles -/

theorem takeBound_cons_of_some {h : Handle} (hget : pool.idle.get? url = some h) :
    pool.takeBound (url :: rest) =
      ((h :: ((pool.withdraw url).takeBound rest).1.1, ((pool.withdraw url).takeBound rest).1.2),
        ((pool.withdraw url).takeBound rest).2) := by
  rw [takeBound, hget]
  rfl

theorem takeBound_cons_of_none (hget : pool.idle.get? url = none) :
    pool.takeBound (url :: rest) =
      (((pool.takeBound rest).1.1, url :: (pool.takeBound rest).1.2), (pool.takeBound rest).2) := by
  rw [takeBound, hget]

theorem Custody.takeBound (c : Custody pool inUse) (urls : List Url) :
    Custody (pool.takeBound urls).2 ((pool.takeBound urls).1.1 ++ inUse) := by
  induction urls generalizing pool inUse with
  | nil => exact c
  | cons url rest ih =>
    cases hget : pool.idle.get? url with
    | none => rw [takeBound_cons_of_none hget]; exact ih c
    | some h =>
      rw [takeBound_cons_of_some hget]
      exact (ih (c.withdraw hget)).perm List.perm_middle.symm

/-- Each URL is either that of a handle taken out or one of the others. -/
theorem Custody.takeBound_urls (c : Custody pool inUse) (urls : List Url) :
    ((pool.takeBound urls).1.1.map (·.url) ++ (pool.takeBound urls).1.2).Perm urls := by
  induction urls generalizing pool inUse with
  | nil => exact .rfl
  | cons url rest ih =>
    cases hget : pool.idle.get? url with
    | none =>
      rw [takeBound_cons_of_none hget]
      exact List.perm_middle.trans ((ih c).cons _)
    | some h =>
      rw [takeBound_cons_of_some hget, List.map_cons, c.filed _ _ hget]
      exact (ih (c.withdraw hget)).cons _

theorem Custody.takeBound_buffer (c : Custody pool inUse) (urls : List Url) :
    ∀ h ∈ (pool.takeBound urls).1.1, h.buffer = [] := by
  induction urls generalizing pool inUse with
  | nil => simp [Pool.takeBound]
  | cons url rest ih =>
    cases hget : pool.idle.get? url with
    | none => rw [takeBound_cons_of_none hget]; exact ih c
    | some h =>
      rw [takeBound_cons_of_some hget]
      exact List.forall_mem_cons.mpr
        ⟨c.emptied h (mem_handles_of_get? hget), ih (c.withdraw hget)⟩

theorem takeBound_get? (urls : List Url) (url : Url) :
    (pool.takeBound urls).2.idle.get? url =
      if url ∈ urls then none else pool.idle.get? url := by
  induction urls generalizing pool with
  | nil => rfl
  | cons first rest ih =>
    cases hget : pool.idle.get? first with
    | none =>
      rw [takeBound_cons_of_none hget, ih]
      by_cases hurl : url = first <;> simp [hurl, hget]
    | some h =>
      rw [takeBound_cons_of_some hget, ih, withdraw, SortedMap.get?_erase]
      by_cases hurl : url = first <;> simp [hurl]

theorem takeBound_created (urls : List Url) :
    (pool.takeBound urls).2.created = pool.created := by
  induction urls generalizing pool with
  | nil => rfl
  | cons first rest ih =>
    cases hget : pool.idle.get? first with
    | none => rw [takeBound_cons_of_none hget, ih]
    | some h => rw [takeBound_cons_of_some hget, ih, withdraw]

/-! ## Other handles -/

theorem takeAny_eq_some {pick : Pool → Nat} {h : Handle}
    (htake : pool.takeAny pick = some (h, pool')) :
    ∃ old, pool.idle.get? old = some h ∧ pool' = pool.withdraw old := by
  unfold takeAny at htake
  split at htake
  · rename_i old h' hentry
    cases htake
    exact ⟨old, SortedMap.mem_entries.mp (List.mem_of_getElem? hentry), rfl⟩
  · contradiction

theorem takeAny_eq_none {pick : Pool → Nat} (htake : pool.takeAny pick = none) :
    pool.idle.entries = [] := by
  unfold takeAny at htake
  split at htake
  · contradiction
  · rename_i hentry
    rw [List.getElem?_eq_none_iff] at hentry
    rcases Nat.eq_zero_or_pos pool.idle.size with h0 | hpos
    · exact List.eq_nil_of_length_eq_zero h0
    · exact absurd (Nat.mod_lt (pick pool) hpos) (Nat.not_lt.mpr hentry)

/-- One URL gets a handle that was idle under another, or finds none idle and gets a new one, or
none at all. -/
inductive Allots (refuse : Url → Option TransportFault) (config : TransportConfig) (url : Url)
    (pool : Pool) (a : Acquired) : Pool → Acquired → Prop
  | rebind : pool.idle.get? old = some h →
    Allots refuse config url pool a (pool.withdraw old)
      { a with rebound := a.rebound ++ [h.rebind url] }
  | refuse : pool.idle.entries = [] → refuse url = some fault →
    Allots refuse config url pool a pool { a with refused := a.refused ++ [(url, fault)] }
  | create : pool.idle.entries = [] → refuse url = none →
    Allots refuse config url pool a { pool with created := pool.created + 1 }
      { a with fresh := a.fresh ++ [{ id := pool.created, url, config }] }

section

variable {pick : Pool → Nat} {refuse : Url → Option TransportFault} {config : TransportConfig}
  {a a' : Acquired}

/-- What holds of the URLs to come, and is kept as each is served, holds of those left. -/
theorem takeOthers_invariant {P : Pool → Acquired → List Url → Prop} (rest : List Url)
    (hstep : ∀ {url rest pool a pool' a'}, Allots refuse config url pool a pool' a' →
      P pool a (url :: rest) → P pool' a' rest)
    (h : P pool a (urls ++ rest)) :
    P (takeOthers pick refuse config pool a urls).2 (takeOthers pick refuse config pool a urls).1
      rest := by
  induction urls generalizing pool a with
  | nil => exact h
  | cons url urls ih =>
    rw [takeOthers]
    split
    · rename_i h' pool' htake
      obtain ⟨old, hget, rfl⟩ := takeAny_eq_some htake
      exact ih (hstep (.rebind hget) h)
    · rename_i htake
      have hidle := takeAny_eq_none htake
      split
      · exact ih (hstep (.refuse hidle ‹_›) h)
      · exact ih (hstep (.create hidle ‹_›) h)

/-- Part of the URLs have been served, `rest` are to come. -/
structure Acquiring (refuse : Url → Option TransportFault) (urls : List Url) (before : Pool)
    (pool : Pool) (a : Acquired) (rest : List Url) : Prop where
  custody : Custody pool a.handles
  /-- No handle serves a URL that is to come. -/
  apart : ((pool.handles ++ a.handles).map (·.url) ++ rest).Nodup
  served : (a.handles.map (·.url) ++ a.refused.map (·.1) ++ rest).Perm urls
  emptied : ∀ h ∈ a.handles, h.buffer = []
  refusals : ∀ p ∈ a.refused, refuse p.1 = some p.2
  /-- Handles are only made when none is idle. -/
  made : before.created ≤ pool.created ∧ (pool.created = before.created ∨ pool.handles = [])

theorem Acquiring.start (c : Custody pool []) (hnodup : urls.Nodup) :
    Acquiring refuse urls pool (pool.takeBound urls).2 { bound := (pool.takeBound urls).1.1 }
      (pool.takeBound urls).1.2 where
  custody := by simpa [Acquired.handles] using c.takeBound urls
  apart := by
    have htaken := c.takeBound urls
    have hurls := c.takeBound_urls urls
    simp only [Acquired.handles, List.append_nil, List.map_append, List.append_assoc]
    -- A handle that stayed idle is filed under its URL, and nothing is filed under `urls` any more.
    refine List.Nodup.append htaken.urls_nodup_idle (hurls.nodup_iff.mpr hnodup)
      fun url hmem hmem' => ?_
    have hin : url ∈ urls := hurls.mem_iff.mp hmem'
    obtain ⟨h, hh, rfl⟩ := List.mem_map.mp hmem
    have hget := htaken.get?_of_mem hh
    rw [takeBound_get?, if_pos hin] at hget
    contradiction
  served := by simpa [Acquired.handles] using c.takeBound_urls urls
  emptied := by simpa [Acquired.handles] using c.takeBound_buffer urls
  refusals := by simp
  made := by simp [takeBound_created]

section

variable {before : Pool}

/-- The next URL gets `h`. -/
theorem Acquiring.serve (q : Acquiring refuse urls before pool a (url :: rest)) (h : Handle)
    (gone : List Handle)
    (hurl : h.url = url) (hbuffer : h.buffer = []) (hhandles : a'.handles.Perm (h :: a.handles))
    (hrefused : a'.refused = a.refused) (c : Custody pool' (h :: a.handles))
    (hidle : (gone ++ pool'.handles).Perm pool.handles)
    (hmade : pool.created ≤ pool'.created ∧
      (pool'.created = pool.created ∨ pool'.handles = [])) :
    Acquiring refuse urls before pool' a' rest := by
  have hurls : (a'.handles.map (·.url)).Perm (url :: a.handles.map (·.url)) := by
    rw [← hurl]
    exact hhandles.map _
  refine ⟨c.perm hhandles, ?_, ?_, fun h' hm => ?_, hrefused ▸ q.refusals,
    Nat.le_trans q.made.1 hmade.1, ?_⟩
  · have hall : ((gone ++ pool'.handles).map (·.url) ++ (a'.handles.map (·.url) ++ rest)).Perm
        (pool.handles.map (·.url) ++ (url :: a.handles.map (·.url) ++ rest)) :=
      (hidle.map _).append (hurls.append_right rest)
    have hbefore := q.apart
    simp only [List.map_append, List.append_assoc] at hall hbefore ⊢
    exact ((hall.trans (List.perm_middle.symm.append_left _)).nodup_iff.mpr hbefore).of_append_right
  · rw [hrefused]
    exact ((hurls.append_right _).append_right rest).trans (List.perm_middle.symm.trans q.served)
  · rcases List.mem_cons.mp (hhandles.mem_iff.mp hm) with rfl | hm
    · exact hbuffer
    · exact q.emptied h' hm
  · rcases hmade.2 with heq | hnil
    · refine q.made.2.imp heq.trans fun hnil => ?_
      exact (List.append_eq_nil_iff.mp (hnil ▸ hidle).eq_nil).2
    · exact .inr hnil

theorem Acquiring.step (q : Acquiring refuse urls before pool a (url :: rest))
    (s : Allots refuse config url pool a pool' a') :
    Acquiring refuse urls before pool' a' rest := by
  have hnew : url ∉ (pool.handles ++ a.handles).map (·.url) := fun hmem =>
    (List.nodup_cons.mp (List.perm_middle.nodup_iff.mp q.apart)).1 (List.mem_append_left _ hmem)
  cases s with
  | @rebind old h hget =>
    have hidle := handles_perm_withdraw hget
    refine q.serve (h.rebind url) [h] rfl rfl ?_ rfl
      ((q.custody.withdraw hget).rebind fun hmem => hnew ?_) hidle.symm ⟨Nat.le_refl _, .inl rfl⟩
    · simp only [Acquired.handles, List.append_assoc, List.singleton_append]
      exact (List.perm_middle.append_left _).trans List.perm_middle
    · rw [List.map_append, List.mem_append] at hmem ⊢
      refine hmem.imp_left fun hin => ?_
      exact (hidle.map _).mem_iff.mpr (List.mem_cons_of_mem _ hin)
  | @refuse fault hnil hrefuse =>
    refine ⟨q.custody, ?_, ?_, q.emptied, ?_, q.made⟩
    · exact (List.nodup_cons.mp (List.perm_middle.nodup_iff.mp q.apart)).2
    · rw [List.map_append, ← List.append_assoc, List.append_assoc _ _ rest]
      exact q.served
    · refine List.forall_mem_append.mpr ⟨q.refusals, ?_⟩
      simpa using hrefuse
  | create hnil hrefuse =>
    refine q.serve _ [] rfl rfl ?_ rfl (q.custody.create config hnew) .rfl
      ⟨Nat.le_succ _, .inr (by simp [handles, hnil])⟩
    rw [Acquired.handles, ← List.append_assoc]
    exact List.perm_append_singleton ..

/-- Any number of the other URLs have been served. -/
theorem Custody.acquiring (c : Custody pool []) (hnodup : urls.Nodup) {served rest : List Url}
    (hothers : (pool.takeBound urls).1.2 = served ++ rest) :
    Acquiring refuse urls pool
      (takeOthers pick refuse config (pool.takeBound urls).2
        { bound := (pool.takeBound urls).1.1 } served).2
      (takeOthers pick refuse config (pool.takeBound urls).2
        { bound := (pool.takeBound urls).1.1 } served).1 rest :=
  takeOthers_invariant rest (fun s q => q.step s) (hothers ▸ Acquiring.start c hnodup)

theorem Custody.acquire (c : Custody pool []) (urls : UrlSet) :
    Acquiring refuse urls.items pool (pool.acquire pick refuse config urls).2
      (pool.acquire pick refuse config urls).1 [] :=
  c.acquiring urls.nodup (List.append_nil _).symm

end

end

/-! ## Handles taken back -/

theorem Custody.release {handles : List Handle} (c : Custody pool (handles ++ inUse)) :
    Custody (pool.release handles) inUse := by
  induction handles generalizing pool with
  | nil => exact c
  | cons h handles ih => exact ih c.file

end Pool

end MarketData
