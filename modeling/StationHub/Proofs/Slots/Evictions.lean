import StationHub.Proofs.Slots.Treatment

/-!
What sweeps evict. A sweep looks at the connections that it found in a roster, and at each of them
once, although the rosters change while it waits for verdicts.

* `sweptPlaces`: the places that a move sweeps over; it looks at no others (`lookedAt_subset`).
* `GivenUp`: the connection is gone, or closed with as many failures as the hub puts up with.
* `evicted_of_sweep`: a move of a sweep changes a slot only by emptying it, if it is bound to a
  connection under the sweep that the sweep gives up.
-/

namespace StationHub.Hub

/-- The connection is gone, or closed and its last failed probe was one too many. -/
def GivenUp (h next : Hub) (link : Nat) : Prop :=
  h.isAlive link = false ∨ ∃ l l', h.link? link = some l ∧ next.link? link = some l' ∧
    l'.closed = true ∧ l'.failures = l.addFailure.failures ∧
    h.settings.failureThreshold ≤ l'.failures

/-- The places that a move sweeps over: those of both rosters if it begins a sweep; if a sweep goes
on, those of its members, and those of the management clients if these come after the devices. -/
def sweptPlaces (h : Hub) : Move → List Place
  | .sweeping => h.places .device ++ h.places .management
  | .resume id =>
      match (h.task? id).map Task.activity with
      | some (.sweeping .device members _) =>
          members.map (Member.place .device) ++ h.places .management
      | some (.sweeping .management members _) => members.map (Member.place .management)
      | _ => []
  | _ => []

variable {h next : Hub} {move : Move}

theorem lookedAt_subset (sweeps : h.isSweep move = true) :
    h.lookedAt move ⊆ h.sweptPlaces move := by
  rcases sweeping_of_isSweep sweeps with rfl | ⟨id, variant, members, report, rfl, found⟩
  · change h.newTask.1.begunEntries ⊆ h.places .device ++ h.places .management
    rcases begunEntries_cases h.newTask.1 with same | same <;> rw [same]
    · exact List.subset_append_left _ _
    · exact List.Subset.refl _
  · rw [lookedAt_resume found, sweptPlaces, found]
    rcases resumedEntries_cases (h.detach id) variant members with none | ⟨rfl, all⟩
    · rw [none, List.append_nil]
      cases variant with
      | device => exact List.subset_append_left _ _
      | management => exact List.Subset.refl _
    · rw [all]
      exact List.Subset.refl _

/-- What a move of a sweep does to a slot, if no other place has a session on its connection. -/
theorem evicted_of_sweep {settings : Settings} {mark : Mark} {moves : List Move}
    (run : (fresh settings mark).run? moves = some h) {place : Place}
    (alone : h.Alone place) (moved : h.step? move = some next)
    (sweeps : h.isSweep move = true)
    (bound : h.boundTo? place.variant place.key = some place.link)
    (unbound : next.boundTo? place.variant place.key ≠ some place.link) :
    place ∈ h.sweptPlaces move ∧ next.registered? place.variant place.key = none ∧
      (h.apart move).GivenUp next place.link := by
  obtain ⟨inside, -, emptied, why⟩ := forfeits_of_unbound run alone moved sweeps bound unbound
  refine ⟨lookedAt_subset sweeps inside, emptied, ?_⟩
  rcases why with skips | ⟨l, l', here, rest⟩
  · rw [Hub.skips, Bool.and_eq_true, Bool.not_eq_true'] at skips
    exact .inl skips.1
  · have apart : (h.apart move).link? place.link = h.link? place.link ∧
        (h.apart move).settings = h.settings := by
      unfold Hub.apart
      split <;> exact ⟨rfl, rfl⟩
    rw [← apart.2] at rest
    exact .inr ⟨l, l', apart.1.trans here, rest⟩

end StationHub.Hub
