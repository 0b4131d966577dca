import MarketData.Proofs.Batch.Coverage

/-! How each URL of a batch comes to its end. The attempts at a URL are all that the policy makes,
one after the other, and its entry is what the last of them brought (`Policy.Concludes`); only a URL
that no handle could be made for is never requested (`Batch.Ends`). -/

namespace MarketData

open Drive

namespace Batch

variable {b : Batch} {e : Engine} {url : Url}

/-- How a URL of a batch ends after these attempts: it was refused a handle before any, or the
policy was done with it. -/
inductive Ends (b : Batch) (url : Url) : List Transfer → Entry → Prop
  | refused : b.env.refuse b.config url = some fault → Ends b url [] (.error (.transport fault))
  | concluded : b.policy.Concludes attempts entry → Ends b url attempts entry

section

variable {seen : History} (c : e.pool.Custody [])
  (hreach : Reaches b.policy b.maxConnections (b.acquired e).handles seen (b.loop e).1)
include c hreach

theorem started_count (ha : (b.loop e).1.active = []) (url : Url) :
    (b.run e).1.started.count url = (attemptsAt url seen).length :=
  (b.books c hreach).requests_of_rest (hreach.queue_of_rest ha) ha url

theorem run_ends (hm : url ∈ b.urls.items) : ∃ entry,
    (b.run e).1.results.entries.get? url = some entry ∧ b.Ends url (attemptsAt url seen) entry := by
  have hbooks := b.books c hreach
  rcases b.run_entry c hm with ⟨p, hp, rfl, hget⟩ | ⟨fault, hrefused, hget⟩
  · obtain ⟨earlier, last, hattempts, hearlier, hlast, hbuffer, hending, -⟩ :=
      hbooks.fits (p.1, .finished p.2) (List.mem_append_right _ (List.mem_map_of_mem hp))
    simp only at hattempts hbuffer hending
    refine ⟨_, hget, ?_⟩
    rw [hattempts, hbuffer, hending]
    exact .concluded (.intro hearlier hlast)
  -- A URL that was refused a handle is none of those the loop works on.
  · have hserved := (b.acquiring c).served
    rw [List.append_nil] at hserved
    have hapart := List.nodup_append.mp (hserved.nodup_iff.mpr b.urls.nodup)
    have hurl : url ∉ (b.acquired e).handles.map (·.url) := fun hmem =>
      hapart.2.2 url hmem url (List.mem_map_of_mem (f := (·.1)) hrefused) rfl
    rw [(hbooks.others url hurl).1]
    exact ⟨_, hget, .refused ((b.acquiring c).refusals _ hrefused)⟩

end

end Batch

end MarketData
