import StationHub.Proofs.Slots.Entries

/-!
Sessions whose connection is gone.

* `isGone`: nobody refers to the connection of the session any more.
* `Anchors`: the same connections exist; each operation that leaves them has its lemma `anchors_…`.
-/

namespace StationHub.Hub

/-- The connection of session number `i` does not exist any more. -/
def isGone (h : Hub) (i : Nat) : Bool := ((h.session? i).bind h.linkOf?).isNone

theorem present?_eq_some {h : Hub} {i : Nat} {s : Session} :
    h.present? i = some s ↔ h.session? i = some s ∧ (h.linkOf? s).isSome = true :=
  Option.filter_eq_some_iff

theorem isNone_present? (h : Hub) (i : Nat) : (h.present? i).isNone = h.isGone i := by
  unfold present? isGone
  cases h.session? i with
  | none => rfl
  | some s => cases known : h.linkOf? s <;> simp [known]

/-- The connection of a session that is gone is referred to by nobody. -/
theorem isAlive_of_isGone {h : Hub} (attached : h.Attached) {i : Nat} {s : Session}
    (here : h.session? i = some s) (gone : h.isGone i = true) : h.isAlive s.link = false := by
  unfold isGone linkOf? at gone
  rw [here, Option.bind_some] at gone
  split at gone
  · have known := attached here
    rw [Option.isNone_iff_eq_none.mp gone] at known
    cases known
  · rename_i dead
    exact Bool.eq_false_iff.mpr dead

/-- The same connections exist, and the sessions are on the same ones. -/
structure Anchors (h next : Hub) : Prop where
  sessions : ∀ i, (next.session? i).map Session.link = (h.session? i).map Session.link
  alive : ∀ i, next.isAlive i = h.isAlive i
  known : ∀ i, (next.link? i).isSome = (h.link? i).isSome

theorem Anchors.refl (h : Hub) : h.Anchors h := ⟨fun _ => rfl, fun _ => rfl, fun _ => rfl⟩

theorem Anchors.trans {h mid next : Hub} (first : h.Anchors mid) (second : mid.Anchors next) :
    h.Anchors next where
  sessions := fun i => (second.sessions i).trans (first.sessions i)
  alive := fun i => (second.alive i).trans (first.alive i)
  known := fun i => (second.known i).trans (first.known i)

theorem Anchors.isGone {h next : Hub} (anchors : h.Anchors next) (i : Nat) :
    next.isGone i = h.isGone i := by
  have gone : ∀ g : Hub, g.isGone i = ((g.session? i).map Session.link).all fun link =>
      !(g.isAlive link && (g.link? link).isSome) := by
    intro g
    unfold Hub.isGone linkOf?
    cases g.session? i with
    | none => rfl
    | some s =>
        simp only [Option.bind_some, Option.map_some, Option.all_some]
        cases g.isAlive s.link <;> cases g.link? s.link <;> rfl
  rw [gone, gone, anchors.sessions]
  simp only [anchors.alive, anchors.known]

theorem anchors_modifyLink (h : Hub) (i : Nat) (change : Link → Link) :
    h.Anchors (h.modifyLink i change) where
  sessions := fun _ => rfl
  alive := isAlive_modifyLink h i change
  known := fun j => by
    unfold link? modifyLink
    rw [connection?_modifyConnection]
    cases h.connection? j <;> rfl

theorem anchors_setRoster (h : Hub) (variant : Variant) (roster : Roster Nat Nat) :
    h.Anchors (h.setRoster variant roster) where
  sessions := fun i => by rw [session?, session?, sessions_setRoster]
  alive := isAlive_setRoster h variant roster
  known := fun i => by rw [link?, link?, connection?_setRoster]

theorem anchors_closed (h : Hub) (i : Nat) (cause : CloseCause) : h.Anchors (h.closed i cause) := by
  unfold closed closeLink
  split
  · exact .refl h
  · rename_i link _
    exact anchors_modifyLink h i fun _ => (link.close cause).1

theorem anchors_startProbe (h : Hub) (i wait : Nat) : h.Anchors (h.startProbe i wait).1 := by
  unfold startProbe
  split
  · exact .refl h
  · rename_i link _
    exact anchors_modifyLink h i fun _ => (link.startProbe h.now wait).1

theorem anchors_beginTakeover (h : Hub) (i : Nat) (s : Session) :
    h.Anchors (h.beginTakeover i s).1 := by
  unfold beginTakeover
  split
  · exact anchors_setRoster h _ _
  · split
    · exact .refl h
    · split
      · exact anchors_setRoster h _ _
      · rename_i rival _
        have probed := anchors_startProbe h rival h.settings.probeTimeout
        split <;> rename_i started <;> rw [started] at probed
        · exact probed.trans (anchors_setRoster _ _ _)
        · exact probed

theorem anchors_concludeTakeover (h : Hub) (i rival : Nat) (alive : Bool) :
    h.Anchors (h.concludeTakeover i rival alive).1 := by
  have counted : ∀ g : Hub, g.Anchors (g.count .duplicateClosed) := fun _ =>
    ⟨fun _ => rfl, fun _ => rfl, fun _ => rfl⟩
  unfold concludeTakeover
  split
  · exact .refl h
  · unfold endTakeover
    split
    · exact ((anchors_closed h rival _).trans (counted _)).trans (anchors_setRoster _ _ _)
    · exact anchors_setRoster h _ _

/-- A call of the peer is noted. -/
theorem anchors_noteCall {h : Hub} {i : Nat} {s : Session} (here : h.session? i = some s) :
    h.Anchors (h.modifySession i fun _ => s.noteCall.1) := by
  have links : ∀ j, ((h.modifySession i fun _ => s.noteCall.1).session? j).map Session.link =
      (h.session? j).map Session.link := by
    intro j
    rw [session?_modifySession]
    by_cases same : i = j
    · subst same
      rw [here]
      simp [Session.noteCall]
    · cases h.session? j <;> simp [same]
  refine ⟨links, fun j => ?_, fun _ => rfl⟩
  have holds : (h.modifySession i fun _ => s.noteCall.1).holds = h.holds := by
    funext activity
    cases activity with
    | executing session context request guard =>
        have same := congrArg Option.toList (links session)
        rw [Option.toList_map, Option.toList_map] at same
        exact same
    | _ => rfl
  unfold isAlive
  rw [holds]
  rfl

end StationHub.Hub
