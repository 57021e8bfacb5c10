import StationHub.Proofs.Openings.Steps

/-!
The last steps of an opening: its session takes over a slot, and the opening ends.

* `beginTakeover_adopts`, `concludeTakeover_adopts`: a takeover puts its session into the slot and
  leaves the connection of the session alone.
* `isClosed_afterTakeover`, `vacated_afterTakeover`: what is left of an opening that ends in a hub
  that shuts down.
* `result_of_afterTakeover`: what an opening returns.
-/

namespace StationHub.Hub

/-! ### Connections -/

theorem link?_modifyLink (h : Hub) (i : Nat) (change : Link → Link) (j : Nat) :
    (h.modifyLink i change).link? j = (h.link? j).map fun l => if i = j then change l else l := by
  unfold modifyLink link?
  rw [connection?_modifyConnection, Option.map_map, Option.map_map]
  congr 1
  funext c
  simp only [Function.comp_apply]
  split <;> rfl

theorem link?_closed (h : Hub) (i : Nat) (cause : CloseCause) (j : Nat) :
    (h.closed i cause).link? j =
      (h.link? j).map fun l => if i = j then (l.close cause).1 else l := by
  unfold closed closeLink
  by_cases same : i = j
  · subst same
    cases here : h.link? i with
    | none => exact here
    | some l =>
        dsimp only
        rw [link?_modifyLink, here]
        rfl
  · have other : ∀ l : Link, (if i = j then (l.close cause).1 else l) = l := fun _ => if_neg same
    simp only [other]
    cases here : h.link? i with
    | none => simp
    | some l =>
        dsimp only
        rw [link?_modifyLink]
        simp only [if_neg same]

theorem roster_closeLink (h : Hub) (i : Nat) (cause : CloseCause) (variant : Variant) :
    (h.closeLink i cause).1.roster variant = h.roster variant := by
  unfold closeLink
  split
  · rfl
  · cases variant <;> rfl

theorem isClosed_closed {h : Hub} {i : Nat} {l : Link} (here : h.link? i = some l)
    (coherent : l.Coherent) (cause : CloseCause) : (h.closed i cause).isClosed i = true := by
  unfold isClosed
  rw [link?_closed, here]
  simpa using Link.closed_close coherent cause

theorem link?_startProbe_of_ne {i j : Nat} (other : i ≠ j) (h : Hub) (wait : Nat) :
    (h.startProbe i wait).1.link? j = h.link? j := by
  unfold startProbe
  split
  · rfl
  · rw [link?_modifyLink]
    simp [other]

@[simp] theorem link?_setRoster (h : Hub) (variant : Variant) (roster : Roster Nat Nat) (i : Nat) :
    (h.setRoster variant roster).link? i = h.link? i := by
  cases variant <;> rfl

@[simp] theorem link?_register (h : Hub) (i : Nat) (s : Session) (j : Nat) :
    (h.register i s).link? j = h.link? j :=
  link?_setRoster h s.variant _ j

/-- A connection that enters a phase before its end is in it unless it is closed. -/
theorem phase_enter_of_open {l : Link} (coherent : l.Coherent) (open_ : l.closed = false)
    (phase : Phase) : (l.enter phase).phase = phase := by
  have notOver : l.phase.isOver = false := coherent.phase.trans open_
  simp [Link.enter, notOver]

theorem closed_enter (l : Link) (phase : Phase) : (l.enter phase).closed = l.closed := by
  unfold Link.enter
  split <;> rfl

/-! ### Takeovers -/

/-- The session comes to hold the slot of its key, and nothing else happens to its connection. -/
structure Adopts (h next : Hub) (i : Nat) (s : Session) : Prop where
  session : next.session? i = some s
  slot : next.registered? s.variant s.key = some ⟨i, s.link⟩
  link : next.link? s.link = h.link? s.link
  stopping : next.stopping = h.stopping
  finished : next.finished = h.finished

theorem adopts_register {h mid : Hub} {i : Nat} {s : Session} (quiet : Quiet False h mid)
    (here : mid.session? i = some s) (apart : mid.link? s.link = h.link? s.link) :
    h.Adopts (mid.register i s) i s where
  session := (session?_setRoster mid s.variant _ i).trans here
  slot := registered?_register_self mid i s
  link := (link?_register mid i s s.link).trans apart
  stopping := by
    have seats : Seats mid (mid.register i s) (some i) := ⟨s, here, .inl rfl⟩
    exact (stopping_of_seats seats).trans (stopping_of_quiet quiet)
  finished := by
    rw [← (Quiet.tasks quiet).2.2]
    unfold register setRoster
    split <;> rfl

theorem link_of_openRival? {h : Hub} {slot : Slot Nat Nat} {rival : Nat}
    (found : h.openRival? slot = some rival) : slot.link = rival := by
  unfold openRival? at found
  split at found
  · exact Option.some.inj found
  · cases found

/-- A takeover without a probe, of a slot that is not bound to the connection already. -/
theorem beginTakeover_adopts {h next : Hub} {i : Nat} {s : Session} {takeover : Takeover}
    (here : h.session? i = some s) (unbound : h.boundTo? s.variant s.key ≠ some s.link)
    (started : h.beginTakeover i s = (next, .done takeover)) : h.Adopts next i s := by
  unfold beginTakeover at started
  split at started
  · cases started
    exact adopts_register .refl here rfl
  · rename_i slot there
    split at started
    · rename_i same
      refine absurd ?_ unbound
      rw [boundTo?, there]
      exact congrArg some same
    · rename_i other
      split at started
      · cases started
        exact adopts_register .refl here rfl
      · rename_i rival found
        have apart : rival ≠ s.link := link_of_openRival? found ▸ other
        have probed : Quiet False h _ := quiet_startProbe h rival h.settings.probeTimeout
        have same := link?_startProbe_of_ne apart h h.settings.probeTimeout
        have still := (session?_startProbe h rival h.settings.probeTimeout i).trans here
        split at started <;> rename_i began <;> rw [began] at probed same still <;> cases started
        exact adopts_register probed still same

/-- The last step of a takeover, whose rival is another connection. -/
theorem concludeTakeover_adopts {h : Hub} {i rival : Nat} {s : Session}
    (here : h.session? i = some s) (other : rival ≠ s.link) (alive : Bool) :
    h.Adopts (h.concludeTakeover i rival alive).1 i s := by
  unfold concludeTakeover
  rw [here]
  cases alive with
  | false => exact adopts_register .refl here rfl
  | true =>
      have quiet : Quiet False h ((h.closed rival .duplicate).count .duplicateClosed) :=
        (quiet_closed h rival .duplicate).trans (quiet_count (by decide) _)
      have apart : (h.closed rival .duplicate).link? s.link = h.link? s.link := by
        rw [link?_closed]
        simp [other]
      exact adopts_register quiet ((session?_closed h rival .duplicate i).trans here) apart

/-! ### Ends -/

theorem finished_closed (h : Hub) (i : Nat) (cause : CloseCause) :
    (h.closed i cause).finished = h.finished := by
  have quiet : Quiet False h (h.closed i cause) := quiet_closed h i cause
  exact (Quiet.tasks quiet).2.2

/-- An opening that ends returns what it ends with. -/
theorem result_of_ended {earlier finished : List (Nat × TaskOutcome)} {id : Nat}
    {outcome result : Except Failure Nat} (same : earlier = finished)
    (returns : earlier ++ [(id, .opened outcome)] = finished ++ [(id, .opened result)]) :
    result = outcome := by
  rw [same] at returns
  have last := List.append_cancel_left returns
  simp only [List.cons.injEq, Prod.mk.injEq, TaskOutcome.opened.injEq, and_true, true_and] at last
  exact last.symm

/-- An opening that waits does not return. -/
theorem not_returned {finished : List (Nat × TaskOutcome)} {ended : Nat × TaskOutcome}
    (returns : finished = finished ++ [ended]) : False := by
  have none := List.self_eq_append_right.mp returns
  cases none

theorem boundTo?_removed (h : Hub) (variant : Variant) (key : Key) (link : Nat) :
    (h.setRoster variant ((h.roster variant).removeIfBound key link).1).boundTo? variant key ≠
      some link := by
  unfold boundTo? registered?
  rw [roster_setRoster_self]
  unfold Roster.removeIfBound
  split
  · simp
  · rename_i other
    exact other

/-- An opening that ends in a hub that shuts down closes its connection. -/
theorem isClosed_afterTakeover {h : Hub} {link : Nat} {l : Link} (stopping : h.stopping = true)
    (here : h.link? link = some l) (coherent : l.Coherent) (id session : Nat) (guard : Guard) :
    (h.afterTakeover id link session guard).isClosed link = true := by
  have closed := isClosed_closed here coherent .shutdown
  unfold afterTakeover
  rw [if_pos stopping]
  dsimp only
  split
  · exact closed
  · rename_i s _
    unfold isClosed at closed ⊢
    rw [← closed]
    exact congrArg (Option.any Link.closed)
      (link?_setRoster (h.closed link .shutdown) s.variant _ link)

/-- An opening that ends in a hub that shuts down lets go of its slot. -/
theorem vacated_afterTakeover {h : Hub} {session : Nat} {s : Session} (stopping : h.stopping = true)
    (here : h.session? session = some s) (id link : Nat) (guard : Guard) :
    (h.afterTakeover id link session guard).boundTo? s.variant s.key ≠ some link := by
  have still := (session?_closed h link .shutdown session).trans here
  unfold afterTakeover
  rw [if_pos stopping]
  dsimp only
  rw [still]
  exact boundTo?_removed (h.closed link .shutdown) s.variant s.key link

/-- An opening whose session has its slot returns it, unless the hub shuts down. -/
theorem result_of_afterTakeover {h mid : Hub} {id link session : Nat} {guard : Guard}
    {result : Except Failure Nat} (same : mid.finished = h.finished)
    (returns : (mid.afterTakeover id link session guard).finished =
      h.finished ++ [(id, .opened result)]) :
    result = if mid.stopping then .error .closed else .ok session := by
  unfold afterTakeover at returns
  split at returns <;> rename_i stopping
  · rw [if_pos stopping]
    refine result_of_ended ?_ returns
    have closed := (finished_closed mid link .shutdown).trans same
    split
    · exact closed
    · rename_i s _
      cases s.variant <;> exact closed
  · rw [if_neg stopping]
    exact result_of_ended same returns

end StationHub.Hub
