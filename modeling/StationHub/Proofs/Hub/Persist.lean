import StationHub.Proofs.Link.Course
import StationHub.Proofs.Session.Course
import StationHub.Hub.Run

/-!
What a hub keeps while it changes.

* `Persists`: whatever a hub does, its settings stay, its clock and its numbers only grow, a
  shutdown stays, sessions keep their peers and connections lead on.
* `KeepsCalls`: the calls of every session and the count of overdue ones stay as well.
* `Spares`: besides, every slot stays unless it may be emptied.

Each elementary change has its lemma `spares_…` or `persists_…`.
-/

namespace StationHub.Hub

/-! ### Parts of a changed hub -/

@[simp] theorem session?_setRoster (h : Hub) (variant : Variant) (roster : Roster Nat Nat)
    (i : Nat) : (h.setRoster variant roster).session? i = h.session? i := by
  cases variant <;> rfl

@[simp] theorem connection?_setRoster (h : Hub) (variant : Variant) (roster : Roster Nat Nat)
    (i : Nat) : (h.setRoster variant roster).connection? i = h.connection? i := by
  cases variant <;> rfl

@[simp] theorem roster_setRoster_self (h : Hub) (variant : Variant) (roster : Roster Nat Nat) :
    (h.setRoster variant roster).roster variant = roster := by
  cases variant <;> rfl

theorem roster_setRoster_of_ne {variant other : Variant} (ne : other ≠ variant) (h : Hub)
    (roster : Roster Nat Nat) : (h.setRoster variant roster).roster other = h.roster other := by
  cases variant <;> cases other <;> first | rfl | exact absurd rfl ne

theorem connection?_modifyConnection (h : Hub) (i j : Nat) (change : Connection → Connection) :
    (h.modifyConnection i change).connection? j =
      (h.connection? j).map fun c => if i = j then change c else c := by
  unfold modifyConnection connection?
  rw [List.getElem?_modify]
  split
  · rfl
  · simp

theorem session?_modifySession (h : Hub) (i j : Nat) (change : Session → Session) :
    (h.modifySession i change).session? j =
      (h.session? j).map fun s => if i = j then change s else s := by
  unfold modifySession session?
  rw [List.getElem?_modify]
  split
  · rfl
  · simp

theorem link?_eq_some_iff {h : Hub} {i : Nat} {link : Link} :
    h.link? i = some link ↔ ∃ c, h.connection? i = some c ∧ c.link = link := by
  simp [link?]

/-! ### What always stays -/

/-- What stays true of a hub whatever it does. -/
structure Persists (h next : Hub) : Prop where
  settings : next.settings = h.settings
  mark : next.mark = h.mark
  now : h.now ≤ next.now
  stopping : h.stopping = true → next.stopping = true
  nextTask : h.nextTask ≤ next.nextTask
  nextMessage : h.nextMessage ≤ next.nextMessage
  session : ∀ {i : Nat} {s : Session}, h.session? i = some s →
    ∃ s', next.session? i = some s' ∧ s.SamePeer s'
  connection : ∀ {i : Nat} {c : Connection}, h.connection? i = some c →
    ∃ c', next.connection? i = some c' ∧ c.link.LeadsTo c'.link
  newLink : ∀ {i : Nat} {c : Connection}, h.connection? i = none → next.connection? i = some c →
    c.link.Coherent

/-- The calls of every session and the count of overdue ones stay; sessions may be made if `opens`,
and have no calls then. -/
structure KeepsCalls (h : Hub) (opens : Prop) (next : Hub) : Prop extends h.Persists next where
  timedOut : next.counters.timedOut = h.counters.timedOut
  calls : ∀ {i : Nat} {s : Session}, h.session? i = some s →
    ∃ s', next.session? i = some s' ∧ s.SameCalls s'
  newcomer : ∀ {i : Nat} {s : Session}, h.session? i = none → next.session? i = some s →
    opens ∧ s.pending = [] ∧ s.settled = []

/-- What changes in passing leave alone: calls, and every slot unless it may be emptied. -/
structure Spares (clears opens : Prop) (h next : Hub) : Prop extends h.KeepsCalls opens next where
  slot : ∀ variant key, next.registered? variant key = h.registered? variant key ∨
    clears ∧ next.registered? variant key = none

/-- Where no connection comes, there is no new one. -/
theorem no_newLink {h next : Hub}
    (still : ∀ {i : Nat}, h.connection? i = none → next.connection? i = none) {i : Nat}
    {c : Connection} (absent : h.connection? i = none) (there : next.connection? i = some c) :
    c.link.Coherent := by
  rw [still absent] at there
  cases there

theorem Persists.refl (h : Hub) : h.Persists h where
  settings := rfl
  mark := rfl
  now := Nat.le_refl _
  stopping := id
  nextTask := Nat.le_refl _
  nextMessage := Nat.le_refl _
  session := fun {_ s} at_i => ⟨s, at_i, .refl s⟩
  connection := fun {_ c} at_i => ⟨c, at_i, .refl c.link⟩
  newLink := no_newLink id

theorem Persists.trans {h mid next : Hub} (first : h.Persists mid) (second : mid.Persists next) :
    h.Persists next where
  settings := second.settings.trans first.settings
  mark := second.mark.trans first.mark
  now := Nat.le_trans first.now second.now
  stopping := fun stopping => second.stopping (first.stopping stopping)
  nextTask := Nat.le_trans first.nextTask second.nextTask
  nextMessage := Nat.le_trans first.nextMessage second.nextMessage
  session := by
    intro i s at_i
    obtain ⟨t, at_mid, same⟩ := first.session at_i
    obtain ⟨u, at_next, same'⟩ := second.session at_mid
    exact ⟨u, at_next, same.trans same'⟩
  connection := by
    intro i c at_i
    obtain ⟨d, at_mid, leads⟩ := first.connection at_i
    obtain ⟨e, at_next, leads'⟩ := second.connection at_mid
    exact ⟨e, at_next, leads.trans leads'⟩
  newLink := by
    intro i c absent there
    cases at_mid : mid.connection? i with
    | none => exact second.newLink at_mid there
    | some d =>
        obtain ⟨c', at_next, leads⟩ := second.connection at_mid
        rw [there] at at_next
        cases at_next
        exact leads.coherent (first.newLink absent at_mid)

theorem Persists.link {h next : Hub} (persists : h.Persists next) {i : Nat} {link : Link}
    (here : h.link? i = some link) : ∃ link', next.link? i = some link' ∧ link.LeadsTo link' := by
  obtain ⟨c, at_i, rfl⟩ := link?_eq_some_iff.mp here
  obtain ⟨c', at_next, leads⟩ := persists.connection at_i
  exact ⟨c'.link, link?_eq_some_iff.mpr ⟨c', at_next, rfl⟩, leads⟩

theorem Persists.knows {h next : Hub} (persists : h.Persists next) {i : Nat}
    (known : (h.link? i).isSome = true) : (next.link? i).isSome = true := by
  obtain ⟨l, here⟩ := Option.isSome_iff_exists.mp known
  obtain ⟨l', there, -⟩ := persists.link here
  exact Option.isSome_iff_exists.mpr ⟨l', there⟩

/-- Where all connections are coherent they stay so, those that come included. -/
theorem Persists.coherent {h next : Hub} (persists : h.Persists next)
    (coherent : ∀ {i : Nat} {link : Link}, h.link? i = some link → link.Coherent) {i : Nat}
    {link : Link} (there : next.link? i = some link) : link.Coherent := by
  cases here : h.connection? i with
  | none =>
      obtain ⟨c, at_i, rfl⟩ := link?_eq_some_iff.mp there
      exact persists.newLink here at_i
  | some c =>
      obtain ⟨link', there', leads⟩ := persists.link (link?_eq_some_iff.mpr ⟨c, here, rfl⟩)
      rw [there] at there'
      cases there'
      exact leads.coherent (coherent (link?_eq_some_iff.mpr ⟨c, here, rfl⟩))

/-- A connection that is closed stays so. -/
theorem Persists.isClosed {h next : Hub} (persists : h.Persists next) {i : Nat}
    (closed : h.isClosed i = true) : next.isClosed i = true := by
  unfold Hub.isClosed at closed ⊢
  cases here : h.link? i with
  | none => simp [here] at closed
  | some link =>
      obtain ⟨link', at_next, leads⟩ := persists.link here
      rw [here] at closed
      rw [at_next]
      exact leads.closed closed

/-- Where no session is made, there is no newcomer. -/
theorem no_newcomer {opens : Prop} {h next : Hub}
    (still : ∀ {i : Nat}, h.session? i = none → next.session? i = none) {i : Nat} {s : Session}
    (absent : h.session? i = none) (there : next.session? i = some s) :
    opens ∧ s.pending = [] ∧ s.settled = [] := by
  rw [still absent] at there
  cases there

theorem KeepsCalls.refl (opens : Prop) (h : Hub) : h.KeepsCalls opens h :=
  ⟨.refl h, rfl, fun {_ s} at_i => ⟨s, at_i, .refl s⟩, no_newcomer id⟩

theorem KeepsCalls.trans {opens : Prop} {h mid next : Hub} (first : h.KeepsCalls opens mid)
    (second : mid.KeepsCalls opens next) : h.KeepsCalls opens next where
  toPersists := first.toPersists.trans second.toPersists
  timedOut := second.timedOut.trans first.timedOut
  calls := by
    intro i s at_i
    obtain ⟨t, at_mid, same⟩ := first.calls at_i
    obtain ⟨u, at_next, same'⟩ := second.calls at_mid
    exact ⟨u, at_next, same.trans same'⟩
  newcomer := by
    intro i s absent there
    cases at_mid : mid.session? i with
    | none => exact second.newcomer at_mid there
    | some t =>
        obtain ⟨u, at_next, same⟩ := second.calls at_mid
        rw [there] at at_next
        cases at_next
        rw [same.pending, same.settled]
        exact first.newcomer absent at_mid

theorem Spares.refl (clears opens : Prop) (h : Hub) : Spares clears opens h h :=
  ⟨.refl opens h, fun _ _ => .inl rfl⟩

theorem Spares.trans {clears opens : Prop} {h mid next : Hub} (first : Spares clears opens h mid)
    (second : Spares clears opens mid next) : Spares clears opens h next where
  toKeepsCalls := first.toKeepsCalls.trans second.toKeepsCalls
  slot := by
    intro variant key
    rcases second.slot variant key with kept | emptied
    · rw [kept]
      exact first.slot variant key
    · exact .inr emptied

/-! ### Elementary changes -/

variable {clears opens : Prop}

/-- A change that touches neither connections nor sessions nor slots nor the count of overdue
calls spares them. -/
theorem spares_of_eq {h next : Hub} (connections : next.connections = h.connections)
    (sessions : next.sessions = h.sessions)
    (roster : ∀ variant, next.roster variant = h.roster variant)
    (timedOut : next.counters.timedOut = h.counters.timedOut)
    (settings : next.settings = h.settings)
    (mark : next.mark = h.mark) (now : h.now ≤ next.now)
    (stopping : h.stopping = true → next.stopping = true) (nextTask : h.nextTask ≤ next.nextTask)
    (nextMessage : h.nextMessage ≤ next.nextMessage) : Spares clears opens h next where
  settings := settings
  mark := mark
  now := now
  stopping := stopping
  nextTask := nextTask
  nextMessage := nextMessage
  timedOut := timedOut
  session := fun {i s} at_i => ⟨s, by rw [session?, sessions]; exact at_i, .refl s⟩
  calls := fun {i s} at_i => ⟨s, by rw [session?, sessions]; exact at_i, .refl s⟩
  connection := fun {i c} at_i => ⟨c, by rw [connection?, connections]; exact at_i, .refl c.link⟩
  newLink := no_newLink fun absent => by rw [connection?, connections]; exact absent
  newcomer := no_newcomer fun absent => by rw [session?, sessions]; exact absent
  slot := fun variant key => .inl (by rw [registered?, registered?, roster])

theorem persists_setRoster (h : Hub) (variant : Variant) (roster : Roster Nat Nat) :
    h.Persists (h.setRoster variant roster) where
  settings := by cases variant <;> rfl
  mark := by cases variant <;> rfl
  now := by cases variant <;> exact Nat.le_refl _
  stopping := by cases variant <;> exact id
  nextTask := by cases variant <;> exact Nat.le_refl _
  nextMessage := by cases variant <;> exact Nat.le_refl _
  session := fun {i s} at_i => ⟨s, by simpa using at_i, .refl s⟩
  connection := fun {i c} at_i => ⟨c, by simpa using at_i, .refl c.link⟩
  newLink := no_newLink fun absent => by simpa using absent

/-- The calls do not depend on who holds a slot. -/
theorem keepsCalls_setRoster (h : Hub) (variant : Variant) (roster : Roster Nat Nat) :
    h.KeepsCalls opens (h.setRoster variant roster) where
  toPersists := persists_setRoster h variant roster
  timedOut := by cases variant <;> rfl
  calls := fun {i s} at_i => ⟨s, by simpa using at_i, .refl s⟩
  newcomer := no_newcomer fun absent => by simpa using absent

/-- Emptying slots spares everything else. -/
theorem spares_setRoster {h : Hub} {variant : Variant} {roster : Roster Nat Nat}
    (emptied : ∀ key, Table.get? key roster = Table.get? key (h.roster variant) ∨
      clears ∧ Table.get? key roster = none) :
    Spares clears opens h (h.setRoster variant roster) where
  toKeepsCalls := keepsCalls_setRoster h variant roster
  slot := by
    intro other key
    by_cases same : other = variant
    · subst same
      simpa [registered?] using emptied key
    · left
      rw [registered?, registered?, roster_setRoster_of_ne same]

theorem spares_modifyConnection {h : Hub} {i : Nat} {change : Connection → Connection}
    (leads : ∀ c, h.connection? i = some c → c.link.LeadsTo (change c).link) :
    Spares clears opens h (h.modifyConnection i change) where
  settings := rfl
  mark := rfl
  now := Nat.le_refl _
  stopping := id
  nextTask := Nat.le_refl _
  nextMessage := Nat.le_refl _
  timedOut := rfl
  session := fun {_ s} at_j => ⟨s, at_j, .refl s⟩
  calls := fun {_ s} at_j => ⟨s, at_j, .refl s⟩
  newcomer := no_newcomer id
  slot := fun _ _ => .inl rfl
  connection := by
    intro j c at_j
    rw [connection?_modifyConnection, at_j]
    by_cases same : i = j
    · subst same
      exact ⟨change c, by simp, leads c at_j⟩
    · exact ⟨c, by simp [same], .refl c.link⟩
  newLink := no_newLink fun absent => by
    rw [connection?_modifyConnection, absent]
    rfl

theorem persists_modifySession {h : Hub} {i : Nat} {change : Session → Session}
    (same : ∀ s, h.session? i = some s → s.SamePeer (change s)) :
    h.Persists (h.modifySession i change) := by
  refine ⟨rfl, rfl, Nat.le_refl _, id, Nat.le_refl _, Nat.le_refl _, ?_, ?_, no_newLink id⟩
  · intro j s at_j
    rw [session?_modifySession, at_j]
    by_cases here : i = j
    · subst here
      exact ⟨change s, by simp, same s at_j⟩
    · exact ⟨s, by simp [here], .refl s⟩
  · exact fun {_ c} at_j => ⟨c, at_j, .refl c.link⟩

/-- Changing one session spares the rest, and the calls of that one if the change does. -/
theorem spares_modifySession {h : Hub} {i : Nat} {change : Session → Session}
    (same : ∀ s, h.session? i = some s → s.SameCalls (change s)) :
    Spares clears opens h (h.modifySession i change) where
  toPersists := persists_modifySession fun s at_i => (same s at_i).toSamePeer
  timedOut := rfl
  calls := by
    intro j s at_j
    rw [session?_modifySession, at_j]
    by_cases here : i = j
    · subst here
      exact ⟨change s, by simp, same s at_j⟩
    · exact ⟨s, by simp [here], .refl s⟩
  newcomer := no_newcomer fun absent => by
    rw [session?_modifySession, absent]
    rfl
  slot := fun _ _ => .inl rfl

theorem session?_append {h : Hub} {i : Nat} {s : Session} (at_i : h.session? i = some s)
    (added : List Session) : (h.sessions ++ added)[i]? = some s := by
  obtain ⟨bound, _⟩ := List.getElem?_eq_some_iff.mp at_i
  rw [List.getElem?_append_left bound]
  exact at_i

/-- What an appended item adds is the item. -/
theorem eq_of_getElem?_concat {α : Type} {items : List α} {item other : α} {i : Nat}
    (absent : items[i]? = none) (there : (items ++ [item])[i]? = some other) : other = item := by
  rw [List.getElem?_append_right (List.getElem?_eq_none_iff.mp absent)] at there
  exact List.mem_singleton.mp (List.mem_of_getElem? there)

/-- A connection comes. -/
theorem spares_accept (h : Hub) {c : Connection} (coherent : c.link.Coherent) :
    Spares clears opens h { h with connections := h.connections ++ [c] } where
  settings := rfl
  mark := rfl
  now := Nat.le_refl _
  stopping := id
  nextTask := Nat.le_refl _
  nextMessage := Nat.le_refl _
  timedOut := rfl
  session := fun {_ s} at_i => ⟨s, at_i, .refl s⟩
  calls := fun {_ s} at_i => ⟨s, at_i, .refl s⟩
  newcomer := no_newcomer id
  slot := fun variant key => .inl (by cases variant <;> rfl)
  connection := by
    intro i c' at_i
    obtain ⟨bound, _⟩ := List.getElem?_eq_some_iff.mp at_i
    refine ⟨c', ?_, .refl c'.link⟩
    rw [connection?, List.getElem?_append_left bound]
    exact at_i
  newLink := by
    intro i c' absent there
    rw [eq_of_getElem?_concat absent there]
    exact coherent

/-- A session without calls is made. -/
theorem spares_identified (allowed : opens) (h : Hub) {s : Session} (noPending : s.pending = [])
    (noSettled : s.settled = []) :
    Spares clears opens h { h with sessions := h.sessions ++ [s] } where
  settings := rfl
  mark := rfl
  now := Nat.le_refl _
  stopping := id
  nextTask := Nat.le_refl _
  nextMessage := Nat.le_refl _
  timedOut := rfl
  session := fun {_ t} at_i => ⟨t, session?_append at_i [s], .refl t⟩
  calls := fun {_ t} at_i => ⟨t, session?_append at_i [s], .refl t⟩
  connection := fun {_ c} at_i => ⟨c, at_i, .refl c.link⟩
  newLink := no_newLink id
  slot := fun variant key => .inl (by cases variant <;> rfl)
  newcomer := by
    intro i t absent there
    rw [eq_of_getElem?_concat absent there]
    exact ⟨allowed, noPending, noSettled⟩

end StationHub.Hub
