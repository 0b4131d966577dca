import MarketData.Proofs.Drive.Rest

/-! `Drive.run` under any choice of the transfer that ends next and any answers: it goes through
reachable states only, and `Drive.turns` are enough for it to come to rest. What relates the
attempts to the log of targets is a parameter `I`, kept by each request. -/

namespace MarketData.Drive

variable {policy : Policy} {maxConnections : Nat} {handles : List Handle}
  {pick : Drive → Nat} {ask : List String → Handle → Exchange}

section

variable {I : History → List String → Prop}
  (hask : ∀ {seen : History} {log : List String} {d : Drive} {index : Nat} {flight : Flight},
    Reaches policy maxConnections handles seen d →
    d.active[index]? = some flight → I seen log →
    I (seen ++ [(flight.handle.url, (ask log flight.handle).transfer)])
      (log ++ (ask log flight.handle).targets))
include hask

/-- The loop is at rest after a number of turns, or has taken them all. -/
theorem run_reaches (pick : Drive → Nat) (fuel : Nat) {seen : History} {log : List String}
    {d : Drive} (h : Reaches policy maxConnections handles seen d) (hI : I seen log) :
    ∃ seen', Reaches policy maxConnections handles seen'
        (run policy maxConnections pick ask fuel log d).1 ∧
      I seen' (run policy maxConnections pick ask fuel log d).2 ∧
      ((run policy maxConnections pick ask fuel log d).1.active = [] ∨
        seen'.length = seen.length + fuel) := by
  induction fuel generalizing seen log d with
  | zero => exact ⟨seen, h, hI, .inr rfl⟩
  | succ fuel ih =>
    rw [run]
    cases hflight : d.active[pick d % d.active.length]? with
    | none =>
      refine ⟨seen, h, hI, .inl (List.eq_nil_of_length_eq_zero ?_)⟩
      have hle := List.getElem?_eq_none_iff.mp hflight
      rcases Nat.eq_zero_or_pos d.active.length with h0 | hpos
      · exact h0
      · have := Nat.mod_lt (pick d) hpos
        omega
    | some flight =>
      obtain ⟨seen', hreach, hI', hrest⟩ :=
        ih (h.complete (ask log flight.handle).transfer hflight) (hask h hflight hI)
      refine ⟨seen', hreach, hI', hrest.imp_right fun hlen => ?_⟩
      rw [hlen, List.length_append, List.length_singleton]
      omega

theorem run_rests (hid : (handles.map (·.id)).Nodup) (hurl : (handles.map (·.url)).Nodup)
    (hempty : ∀ h ∈ handles, h.buffer = []) {log : List String} (hI : I [] log)
    {d : Drive} {log' : List String}
    (hrun : run policy maxConnections pick ask (turns policy handles) log
      (start maxConnections handles) = (d, log')) :
    ∃ seen, Reaches policy maxConnections handles seen d ∧ I seen log' ∧ d.active = [] := by
  obtain ⟨seen, hreach, hI', hrest⟩ := run_reaches hask pick (turns policy handles)
    .start hI
  simp only [hrun] at hreach hI' hrest
  refine ⟨seen, hreach, hI', hrest.elim id fun hlen => List.eq_nil_of_length_eq_zero ?_⟩
  have hle := (hreach.books hid hurl hempty).length_le hurl
  simp only [List.length_nil] at hlen
  omega

end

/-- A handle in flight is one of those the loop was given. -/
theorem Reaches.flight_mem {seen : History} {d : Drive} {index : Nat} {flight : Flight}
    (hid : (handles.map (·.id)).Nodup) (hurl : (handles.map (·.url)).Nodup)
    (hempty : ∀ h ∈ handles, h.buffer = []) (h : Reaches policy maxConnections handles seen d)
    (hflight : d.active[index]? = some flight) : flight.handle ∈ handles := by
  have b := h.books hid hurl hempty
  have hplace : (flight.handle, Place.flying) ∈ d.places := by
    simp only [places, List.mem_append, List.mem_map]
    exact .inl (.inr ⟨flight, List.mem_of_getElem? hflight, rfl⟩)
  have hclear : flight.handle.clear ∈ handles.map Handle.clear :=
    b.conserved.mem_iff.mp (List.mem_map_of_mem (List.mem_map_of_mem hplace))
  obtain ⟨given, hmem, hsame⟩ := List.mem_map.mp hclear
  rw [Handle.clear_eq_self (hempty given hmem), Handle.clear_eq_self (b.fits _ hplace).1] at hsame
  obtain rfl : given = flight.handle := hsame
  exact hmem

end MarketData.Drive
