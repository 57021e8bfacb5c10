import StationHub.Proofs.Slots.Departure
import StationHub.Proofs.Slots.Evictions

/-!
Who owns a slot, and who may change it. A slot holds a session of its own variant and key, and a
connection holds one slot at most. An entry is only ever removed on behalf of the connection that it
is bound to, or with all others.

* `SlotChange`: the changes of a slot that a move can make.
* `slots_owned`: in a run in which every connection is opened once, slots are owned so, and every
  move that changes a slot makes one of these changes.
-/

namespace StationHub.Hub

/-- A change of the slot of a variant and a key. -/
inductive SlotChange (h : Hub) (move : Move) (next : Hub) (variant : Variant) (key : Key) : Prop
    where
  /-- The takeover of a session of that variant and key ends, and the session is in the slot. -/
  | installed (task i : Nat) (s : Session) : h.takeoverEnded? move = some (task, i) →
      next.session? i = some s → s.variant = variant → s.key = key →
      next.registered? variant key = some ⟨i, s.link⟩ → SlotChange h move next variant key
  /-- The end of the connection in the slot is handled. -/
  | ended (link : Nat) (session : Option Nat) : move = .ending link session →
      h.boundTo? variant key = some link → next.registered? variant key = none →
      SlotChange h move next variant key
  /-- A sweep that looks at the connection in the slot gives it up. -/
  | evicted (link : Nat) : (⟨variant, key, link⟩ : Place) ∈ h.sweptPlaces move →
      h.boundTo? variant key = some link → (h.apart move).GivenUp next link →
      next.registered? variant key = none → SlotChange h move next variant key
  /-- The takeover of an opening ends in a hub that shuts down: its session comes into the slot, and
  the entry is removed again because the opening is refused. -/
  | refused (mid : Hub) (task i : Nat) (s : Session) (guard : Guard) : h.stopping = true →
      h.opens? move = some (task, s.link) → h.takeoverEnded? move = some (task, i) →
      next.session? i = some s → s.variant = variant → s.key = key →
      mid.registered? variant key = some ⟨i, s.link⟩ →
      next = mid.afterTakeover task s.link i guard → next.registered? variant key = none →
      SlotChange h move next variant key
  /-- All slots are emptied. -/
  | drained : (∃ cause, move = .closeAll cause) ∨ move = .shutDown →
      next.registered? variant key = none → SlotChange h move next variant key

variable {h next : Hub} {move : Move}

/-- A slot is emptied only by moves that may. -/
theorem clears_of_emptied (moved : h.step? move = some next) {variant : Variant} {key : Key}
    (occupied : h.registered? variant key ≠ none) (emptied : next.registered? variant key = none) :
    h.clears move = true := by
  obtain ⟨a, b, before, seats, -, slots⟩ := (step?_effect moved).slots
  rcases slots variant key with same | ⟨clears, -⟩
  · rcases before.slot variant key with same' | ⟨clears, -⟩
    · exfalso
      rw [emptied] at same
      have occupied' : a.registered? variant key ≠ none := same' ▸ occupied
      cases ended : h.takeoverEnded? move with
      | none =>
          rw [ended] at seats
          obtain rfl : b = a := seats
          exact occupied' same.symm
      | some taken =>
          rw [ended] at seats
          obtain ⟨s, -, rfl | ⟨rfl, -⟩⟩ := seats
          · by_cases own : s.variant = variant ∧ s.key = key
            · obtain ⟨rfl, rfl⟩ := own
              rw [registered?_register_self] at same
              cases same
            · rw [registered?_register_of_ne own] at same
              exact occupied' same.symm
          · exact occupied' same.symm
    · exact clears
  · exact clears

/-- The end of a connection empties a slot only if that is bound to the connection. -/
theorem registered?_handleEnd (h : Hub) (link : Nat) (session : Option Nat) (variant : Variant)
    (key : Key) :
    (h.handleEnd link session).registered? variant key = h.registered? variant key ∨
      h.boundTo? variant key = some link := by
  have closed : ∀ variant key,
      (h.closed link .normal).registered? variant key = h.registered? variant key :=
    fun variant key => by rw [registered?, registered?, closed, roster_closeLink]
  rw [handleEnd_eq, registered?_finishLink]
  unfold withoutSession
  split
  · exact .inl (closed variant key)
  · rename_i number s _
    rw [failPending_eq_book, registered?_book]
    rcases registered?_unregister (h.closed link .normal) s.variant s.key link variant key with
      kept | ⟨⟨rfl, rfl⟩, bound, -⟩
    · exact .inl (kept.trans (closed variant key))
    · rw [boundTo?, closed] at bound
      exact .inr bound

/-- The takeover of an opening leaves other slots than that of its session alone. -/
theorem registered?_concludeTakeover_of_ne {i rival : Nat} {s : Session} {alive : Bool}
    (here : h.session? i = some s) {variant : Variant} {key : Key}
    (other : ¬(s.variant = variant ∧ s.key = key)) :
    (h.concludeTakeover i rival alive).1.registered? variant key = h.registered? variant key := by
  obtain ⟨mid, quiet, seats⟩ := @concludeTakeover_effect False _ _ _ here rival alive
  have aside : Aside False False h mid := Quiet.aside quiet
  have kept : mid.registered? variant key = h.registered? variant key :=
    (aside.spares.slot variant key).resolve_right fun emptied => emptied.1
  obtain ⟨s', there, seated⟩ := seats
  obtain ⟨s'', at_mid, same⟩ := aside.spares.session here
  rw [there] at at_mid
  cases at_mid
  rcases seated with registered | ⟨registered, -⟩
  · rw [registered, registered?_register_of_ne, kept]
    rw [same.variant, same.key]
    exact other
  · rw [registered, kept]

/-- An opening that is refused after its takeover leaves other slots than that of its session
alone. -/
theorem registered?_afterTakeover_of_ne {i : Nat} {s : Session} (here : h.session? i = some s)
    {variant : Variant} {key : Key} (other : ¬(s.variant = variant ∧ s.key = key)) (id link : Nat)
    (guard : Guard) :
    (h.afterTakeover id link i guard).registered? variant key = h.registered? variant key := by
  have still := (session?_closed h link .shutdown i).trans here
  have closed : ∀ variant, (h.closed link .shutdown).roster variant = h.roster variant :=
    roster_closeLink h link .shutdown
  unfold afterTakeover
  split
  · dsimp only
    rw [still]
    show Hub.registered? (Hub.setRoster _ s.variant _) variant key = _
    unfold registered?
    by_cases same : variant = s.variant
    · subst same
      rw [roster_setRoster_self, closed]
      exact Roster.get?_removeIfBound_of_ne (fun keys => other ⟨rfl, keys.symm⟩) link _
    · rw [roster_setRoster_of_ne same, closed]
  · cases variant <;> rfl

/-- A slot that the last step of an opening empties is that of the opening, which was in it. -/
theorem refused_of_emptied {id link : Nat} (sound : h.Sound) (stopping : h.stopping = true)
    (moved : h.step? (.resume id) = some next) {session rival : Nat} {guard : Guard}
    {probe : Link.Probe}
    (found : h.task? id = some ⟨id, .openProbing link session guard rival probe⟩)
    {variant : Variant} {key : Key} (occupied : h.registered? variant key ≠ none)
    (emptied : next.registered? variant key = none) :
    SlotChange h (.resume id) next variant key := by
  have opens : h.opens? (.resume id) = some (id, link) := by
    simp [opens?, found, Activity.opened?]
  obtain ⟨other, s, here, rfl⟩ := sound.fit _ (List.mem_of_find?_eq_some found) rfl
  have ended : h.takeoverEnded? (.resume id) = some (id, session) := by
    simp [takeoverEnded?, found, Activity.taking?, here]
  obtain ⟨alive, same⟩ : ∃ alive, next =
      ((h.detach id).concludeTakeover session rival alive).1.afterTakeover id s.link session
        guard := by
    cases step : openingStep_of_step? moved opens with
    | waits target lock found' => rw [found] at found'; cases found'
    | guarded target lock guard found' => rw [found] at found'; cases found'
    | probed session' guard' rival' probe' alive found' =>
        rw [found] at found'
        cases found'
        exact ⟨alive, rfl⟩
  have at_detached : (h.detach id).session? session = some s := here
  have adopts := concludeTakeover_adopts at_detached other alive
  by_cases own : s.variant = variant ∧ s.key = key
  · obtain ⟨rfl, rfl⟩ := own
    refine .refused _ id session s guard stopping opens ended ?_ rfl rfl adopts.slot same emptied
    rw [same, (sameStaff_afterTakeover _ id s.link session guard).session?]
    exact adopts.session
  · rw [same, registered?_afterTakeover_of_ne adopts.session own,
      registered?_concludeTakeover_of_ne at_detached own] at emptied
    exact absurd emptied occupied

/-- A move that empties a slot. -/
theorem slotChange_of_emptied {settings : Settings} {mark : Mark} {moves : List Move}
    (run : (fresh settings mark).run? moves = some h)
    (once : ∀ link, moves.countP (Move.opensLink link) ≤ 1) (moved : h.step? move = some next)
    {variant : Variant} {key : Key} (occupied : h.registered? variant key ≠ none)
    (emptied : next.registered? variant key = none) : SlotChange h move next variant key := by
  have swept (sweeps : h.isSweep move = true) : SlotChange h move next variant key := by
    obtain ⟨slot, there⟩ := Option.ne_none_iff_exists'.mp occupied
    let place : Place := ⟨variant, key, slot.link⟩
    have bound : h.boundTo? place.variant place.key = some place.link :=
      congrArg (Option.map Slot.link) there
    have unbound : next.boundTo? place.variant place.key ≠ some place.link :=
      unbound_of_free emptied
    have alone : h.Alone place :=
      (seated_of_bound (sound_of_run? run) bound).alone (single_of_run? run (once place.link))
    obtain ⟨under, -, gaveUp⟩ := evicted_of_sweep run alone moved sweeps bound unbound
    exact .evicted slot.link under bound gaveUp emptied
  have clears := clears_of_emptied moved occupied emptied
  cases move with
  | ending link session =>
      cases moved
      rcases registered?_handleEnd h link session variant key with kept | bound
      · rw [emptied] at kept
        exact absurd kept.symm occupied
      · exact .ended link session rfl bound emptied
  | sweeping => exact swept rfl
  | closeAll cause => exact .drained (.inl ⟨cause, rfl⟩) emptied
  | shutDown => exact .drained (.inr rfl) emptied
  | resume id =>
      obtain ⟨task, found, -, -⟩ := resumed moved
      obtain ⟨number, activity⟩ := task
      cases id_of_task? found
      simp only [Hub.clears, found, Option.map_some] at clears
      cases activity with
      | sweeping variant members report =>
          exact swept (by rw [isSweep, found]; rfl)
      | openProbing link session guard rival probe =>
          exact refused_of_emptied (sound_of_run? run) clears moved found occupied emptied
      | _ => cases clears
  | _ => cases clears

/-- In a run in which every connection is opened once, a slot holds a session of its own variant and
key, a connection has one slot at most, and every move that changes a slot makes one of the changes
of `SlotChange`: an entry is only removed on behalf of the connection that it is bound to, or with
all others. -/
theorem slots_owned {settings : Settings} {mark : Mark} {moves : List Move}
    (run : (fresh settings mark).run? moves = some h)
    (once : ∀ link, moves.countP (Move.opensLink link) ≤ 1) :
    (∀ variant key slot, h.registered? variant key = some slot →
      ∃ s, h.session? slot.session = some s ∧ s.variant = variant ∧ s.key = key ∧
        s.link = slot.link) ∧
    (∀ variant key variant' key' link, h.boundTo? variant key = some link →
      h.boundTo? variant' key' = some link → variant = variant' ∧ key = key') ∧
    ∀ move next variant key, h.step? move = some next →
      next.registered? variant key ≠ h.registered? variant key →
      SlotChange h move next variant key := by
  have sound := sound_of_run? run
  refine ⟨fun variant key slot => sound.slots, ?_, ?_⟩
  · intro variant key variant' key' link bound bound'
    obtain ⟨slot, there, rfl⟩ := Option.map_eq_some_iff.mp bound
    obtain ⟨slot', there', same⟩ := Option.map_eq_some_iff.mp bound'
    obtain ⟨s, here, rfl, rfl, on⟩ := sound.slots there
    obtain ⟨s', here', rfl, rfl, on'⟩ := sound.slots there'
    have single := single_of_run? run (once slot.link)
    have together := session_unique single here here' on (on'.trans same)
    rw [together, here'] at here
    cases here
    exact ⟨rfl, rfl⟩
  · intro move next variant key moved changed
    cases there : next.registered? variant key with
    | none =>
        rw [there] at changed
        exact slotChange_of_emptied run once moved changed.symm there
    | some slot =>
        rcases slot_of_step? moved there with old | ⟨task, ended⟩
        · exact absurd (there.trans old.symm) changed
        · obtain ⟨s, here, isVariant, isKey, on⟩ := (step?_sound sound moved).slots there
          refine .installed task slot.session s ended here isVariant isKey ?_
          rw [there, on]

/-- The end of the second connection empties the slot that is bound to it. -/
theorem slots_owned_departedRun : ∃ h next,
    (fresh {} "hub").run? (closedRun ++ [.resume 1]) = some h ∧
    h.step? (.ending 1 (some 1)) = some next ∧
    next.registered? .device ⟨"T", "D1"⟩ ≠ h.registered? .device ⟨"T", "D1"⟩ ∧
    SlotChange h (.ending 1 (some 1)) next .device ⟨"T", "D1"⟩ := by
  obtain ⟨opened, h, next, last, run, moved, -, -, -, -, bound, ended, emptied, -, -⟩ :=
    run?_departedRun
  have run' : (fresh {} "hub").run? (closedRun ++ [.resume 1]) = some h :=
    run?_concat.mpr ⟨opened, run, moved⟩
  have changed : next.registered? .device ⟨"T", "D1"⟩ ≠ h.registered? .device ⟨"T", "D1"⟩ := by
    intro same
    rw [boundTo?, ← same, emptied] at bound
    cases bound
  have once : ∀ link, (closedRun ++ [Move.resume 1]).countP (Move.opensLink link) ≤ 1 := by
    intro link
    simp only [closedRun, List.cons_append, List.nil_append, List.countP_cons, List.countP_nil,
      Move.opensLink, beq_iff_eq, Bool.false_eq_true, if_false]
    by_cases first : 0 = link
    · simp [← first]
    · rw [if_neg first]
      split <;> omega
  exact ⟨h, next, run', ended, changed, (slots_owned run' once).2.2 _ _ _ _ ended changed⟩

end StationHub.Hub
