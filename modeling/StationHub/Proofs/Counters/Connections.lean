import StationHub.Proofs.Counters.Occasions
import StationHub.Proofs.Link.Aspects
import StationHub.Proofs.Openings.Lifecycle

/-!
The account of connections.

* `Tallied`: as many connections are counted as were accepted, and as many ends as there are
  connections in their last phase.
* `step?_tallied`: every move keeps it so; `tallied_handleEnd` is about the one that handles an end.
* `handleEnd_handleEnd`: to handle an end once more changes nothing at all.
* `countsConnections_of_run?`: the account is right in every run.
-/

namespace StationHub

/-- The end of the connection was handled. -/
def Connection.isEnded (c : Connection) : Bool := decide (c.link.phase = .closed)

namespace Hub

open Connection (Deed)
open Counters (Occasion)

variable {settings : Settings} {mark : Mark} {moves : List Move} {h next : Hub} {move : Move}
  {p : Connection → Bool} {i : Nat} {c : Connection}

/-! ### Counting connections -/

/-- Connections that agree one by one are as many. -/
theorem countP_connections_congr (length : next.connections.length = h.connections.length)
    (each : ∀ {i c c'}, h.connection? i = some c → next.connection? i = some c' → p c' = p c) :
    next.connections.countP p = h.connections.countP p := by
  have same : next.connections.map p = h.connections.map p := by
    refine List.ext_getElem (by simp [length]) fun i bound bound' => ?_
    rw [List.length_map] at bound bound'
    rw [List.getElem_map, List.getElem_map]
    exact each (List.getElem?_eq_getElem bound') (List.getElem?_eq_getElem bound)
  have of_map (l : List Connection) : l.countP p = (l.map p).countP id :=
    (List.countP_map (p := id) (f := p)).symm
  rw [of_map, of_map, same]

/-- One connection is counted anew when it changes. -/
theorem countP_modifyConnection (here : h.connection? i = some c)
    (change : Connection → Connection) :
    (h.modifyConnection i change).connections.countP p + (if p c then 1 else 0) =
      h.connections.countP p + if p (change c) then 1 else 0 := by
  obtain ⟨bound, at_i⟩ := List.getElem?_eq_some_iff.mp here
  have within : (if p c then 1 else 0) ≤ h.connections.countP p := by
    split
    · next counted =>
      exact List.countP_pos_iff.mpr ⟨c, at_i ▸ List.getElem_mem bound, counted⟩
    · exact Nat.zero_le _
  have counted : (h.modifyConnection i change).connections.countP p =
      h.connections.countP p - (if p c then 1 else 0) + if p (change c) then 1 else 0 := by
    show (h.connections.modify i change).countP p = _
    rw [List.modify_eq_set_get _ bound, List.countP_set bound]
    simp only [List.get_eq_getElem, at_i]
  omega

theorem countP_of_does {permits : Nat → Deed → Prop} (does : Does permits h next)
    (each : ∀ {i c c'}, c.Goes (permits i) h.now c' → p c' = p c) :
    next.connections.countP p = h.connections.countP p := by
  refine countP_connections_congr does.length fun here there => ?_
  obtain ⟨c'', there', goes⟩ := does.connection here
  cases there.symm.trans there'
  exact each goes

/-! ### The account -/

/-- As many connections are counted as were accepted, as many ends as there are connections in
their last phase, and as many open connections as the difference. -/
structure Tallied (h : Hub) : Prop where
  opened : h.counters.opened = h.connections.length
  closed : h.counters.closed = h.connections.countP Connection.isEnded
  balanced : h.counters.Balanced

/-- Deeds that do not handle an end leave the number of ended connections alone. -/
theorem countP_isEnded {permits : Nat → Deed → Prop} (does : Does permits h next)
    (orderly : ∀ i deed, permits i deed → deed.isOrderly = true ∧ deed ≠ .finish) :
    next.connections.countP Connection.isEnded = h.connections.countP Connection.isEnded := by
  refine countP_of_does does fun {i c c'} goes => decide_eq_decide.mpr ?_
  exact goes.phase_iff (fun deed permitted => (orderly i deed permitted).1)
    fun permitted => (orderly i _ permitted).2 rfl

/-- The end of a connection is counted when its phase becomes the last one. -/
theorem tallied_finishLink (tallied : h.Tallied) (link : Nat) : (h.finishLink link).Tallied := by
  unfold finishLink
  split
  · exact tallied
  · next l here =>
    obtain ⟨c, at_link, rfl⟩ := link?_eq_some_iff.mp here
    have length : (h.modifyLink link fun _ => c.link.finish.1).connections.length =
        h.connections.length := List.length_modify ..
    have ended : (h.modifyLink link fun _ => c.link.finish.1).connections.countP
        Connection.isEnded + (if c.isEnded then 1 else 0) =
        h.connections.countP Connection.isEnded + 1 := by
      have changed := countP_modifyConnection (p := Connection.isEnded) at_link
        fun c' => { c' with link := c.link.finish.1 }
      have shut : ({ c with link := c.link.finish.1 } : Connection).isEnded = true :=
        decide_eq_true c.link.phase_finish
      rw [if_pos shut] at changed
      exact changed
    rw [Connection.isEnded] at ended
    simp only [Link.finish_snd]
    split
    · next first =>
      rw [if_neg (by simpa using first)] at ended
      exact ⟨tallied.opened.trans length.symm, (congrArg (· + 1) tallied.closed).trans ended.symm,
        Counters.balanced_count tallied.balanced .closed⟩
    · next again =>
      rw [if_pos (by simpa using again)] at ended
      exact ⟨tallied.opened.trans length.symm, tallied.closed.trans (Nat.succ.inj ended).symm,
        tallied.balanced⟩

theorem tallied_handleEnd (tallied : h.Tallied) (link : Nat) (session : Option Nat) :
    (h.handleEnd link session).Tallied := by
  have does : Does (fun _ deed => deed = .close .normal) h
      ((h.closed link .normal).withoutSession link session) :=
    (does_closed rfl).trans (does_withoutSession _ link session)
  have counts : Counts (fun _ => False) h
      ((h.closed link .normal).withoutSession link session) :=
    (counts_closed h link .normal).trans (counts_withoutSession _ link session)
  have ended := countP_isEnded does fun i deed is => is ▸ ⟨rfl, nofun⟩
  rw [handleEnd_eq]
  refine tallied_finishLink ⟨?_, ?_, counts.balanced tallied.balanced⟩ link
  · rw [does.length, ← tallied.opened]
    exact counts.counted_eq .opened id
  · rw [ended, ← tallied.closed]
    exact counts.counted_eq .closed id

theorem tallied_accept (tallied : h.Tallied) (variant : Variant) :
    (h.accept variant).1.Tallied := by
  refine ⟨?_, ?_, Counters.balanced_count tallied.balanced .opened⟩
  · show h.counters.opened + 1 = (h.connections ++ [_]).length
    rw [List.length_append, tallied.opened]
    rfl
  · show h.counters.closed = (h.connections ++ [_]).countP _
    rw [List.countP_append, tallied.closed]
    rfl

/-- **Every move keeps the account.** -/
theorem step?_tallied (tallied : h.Tallied) (moved : h.step? move = some next) : next.Tallied := by
  by_cases arrives : ∃ variant, move = .accept variant
  · obtain ⟨variant, rfl⟩ := arrives
    cases moved
    exact tallied_accept tallied variant
  by_cases ends : ∃ link session, move = .ending link session
  · obtain ⟨link, session, rfl⟩ := ends
    cases moved
    exact tallied_handleEnd tallied link session
  have balanced := (step?_counts moved).balanced tallied.balanced
  have opened : next.counters.opened = h.counters.opened := by
    refine counted_of_step? moved .opened ?_
    rintro ⟨⟩
    exact arrives ⟨_, rfl⟩
  have closed : next.counters.closed = h.counters.closed := by
    refine counted_of_step? moved .closed ?_
    rintro ⟨⟩
    exact ends ⟨_, _, rfl⟩
  rcases step?_warrants moved with does | accepts | ⟨ms, rfl⟩
  · refine ⟨?_, ?_, balanced⟩
    · rw [opened, does.length, tallied.opened]
    · rw [closed, tallied.closed, countP_isEnded does fun i deed warranted => ?_]
      refine ⟨warranted.allows.isOrderly, ?_⟩
      rintro rfl
      cases warranted with
      | finish same => exact ends ⟨_, _, same⟩
      | plain plain => cases plain
      | meant meant => cases move <;> cases meant
      | sweeps _ sweeping => cases sweeping
  · exact absurd accepts arrives
  · cases moved
    exact ⟨tallied.opened, tallied.closed, tallied.balanced⟩

theorem tallied_fresh (settings : Settings) (mark : Mark) : (fresh settings mark).Tallied :=
  ⟨rfl, rfl, rfl⟩

theorem tallied_of_run? (run : (fresh settings mark).run? moves = some h) : h.Tallied :=
  run?_induction step?_tallied (tallied_fresh settings mark) run

/-! ### Ends that are handled again -/

/-- To close what is closed already changes nothing. -/
theorem closed_of_cause {cause : CloseCause} (known : ∀ l, h.link? i = some l → l.cause ≠ none) :
    h.closed i cause = h := by
  unfold closed closeLink
  split
  · rfl
  · next l here =>
    obtain ⟨first, caused⟩ := Option.ne_none_iff_exists'.mp (known l here)
    rw [Link.close_of_cause caused]
    show (h.modifyLink i fun _ => l) = h
    exact modifyLink_eq_self here rfl

/-- A session that has left its slot to others and has no pending calls is removed already. -/
theorem withoutSession_of_left {link : Nat} {session : Option Nat}
    (left : ∀ i s, session = some i → h.session? i = some s →
      h.boundTo? s.variant s.key ≠ some link ∧ s.pending = []) :
    h.withoutSession link session = h := by
  unfold withoutSession
  split
  · rfl
  · next i s found =>
    obtain ⟨i', rfl, at_i⟩ := Option.bind_eq_some_iff.mp found
    obtain ⟨s', here, same⟩ := Option.map_eq_some_iff.mp at_i
    cases same
    obtain ⟨unbound, none⟩ := left i s rfl here
    have kept : (h.unregister s.variant s.key link).1 = h := by
      unfold unregister
      rw [Roster.removeIfBound_of_ne unbound]
      cases s.variant <;> rfl
    rw [kept, failPending_eq_book]
    refine modifySession_eq_self fun s' at_i => ?_
    cases here.symm.trans at_i
    cases s
    cases none
    simp [CallEvent.apply, Session.failPending]

/-- The end of a connection in its last phase is not counted again. -/
theorem finishLink_of_closed (shut : ∀ l, h.link? i = some l → l.phase = .closed) :
    h.finishLink i = h := by
  unfold finishLink
  split
  · rfl
  · next l here =>
    have again : l.finish = (l, false) := by rw [Link.finish, if_pos (shut l here)]
    simp only [again]
    show (h.modifyLink i fun _ => l) = h
    exact modifyLink_eq_self here rfl

theorem session?_finishLink (h : Hub) (link i : Nat) :
    (h.finishLink link).session? i = h.session? i := by
  unfold finishLink
  split
  · rfl
  · dsimp only
    split <;> rfl

/-- A session whose connection came to its end has left its slot and has no pending calls. -/
theorem left_withoutSession {link : Nat} {s : Session}
    (there : (h.withoutSession link (some i)).session? i = some s) :
    (h.withoutSession link (some i)).boundTo? s.variant s.key ≠ some link ∧ s.pending = [] := by
  cases here : h.session? i with
  | none =>
      unfold withoutSession at there
      rw [Option.bind_some, here] at there
      cases here.symm.trans there
  | some old =>
      have removed := boundTo?_withoutSession here link
      have failed : (h.withoutSession link (some i)).session? i = some old.failPending.1 := by
        unfold withoutSession
        rw [Option.bind_some, here, Option.map_some]
        dsimp only
        rw [failPending_eq_book, session?_book]
        unfold unregister
        simp [here, CallEvent.apply]
      cases there.symm.trans failed
      exact ⟨removed, rfl⟩

/-- **To handle the end of a connection once more changes nothing.** -/
theorem handleEnd_handleEnd (h : Hub) (link : Nat) (session : Option Nat) :
    (h.handleEnd link session).handleEnd link session = h.handleEnd link session := by
  let mid := (h.closed link .normal).withoutSession link session
  have ended : h.handleEnd link session = mid.finishLink link := handleEnd_eq h link session
  have linked {l : Link} (there : (mid.finishLink link).link? link = some l) :
      l.cause ≠ none ∧ l.phase = .closed := by
    rw [link?_finishLink] at there
    obtain ⟨l', here, rfl⟩ := Option.map_eq_some_iff.mp there
    have caused : l'.cause.isSome = true :=
      isSome_cause_closed ((link?_withoutSession _ link session link).symm.trans here)
    rw [if_pos rfl]
    obtain ⟨phase, same⟩ := l'.finish_eq
    refine ⟨?_, l'.phase_finish⟩
    rw [same]
    exact Option.isSome_iff_ne_none.mp caused
  have closed : (mid.finishLink link).closed link .normal = mid.finishLink link :=
    closed_of_cause fun l there => (linked there).1
  have removed : (mid.finishLink link).withoutSession link session = mid.finishLink link := by
    refine withoutSession_of_left fun i s named there => ?_
    subst named
    rw [session?_finishLink] at there
    rw [boundTo?, registered?_finishLink]
    exact left_withoutSession there
  rw [ended, handleEnd_eq, closed, removed]
  exact finishLink_of_closed fun l there => (linked there).2

/-! ### Every run -/

/-- What the counters tell about the connections. -/
structure CountsConnections (h : Hub) : Prop where
  /-- Every connection that was accepted is counted, -/
  opened : h.counters.opened = h.connections.length
  /-- and every one in its last phase. -/
  closed : h.counters.closed = h.connections.countP fun c => c.link.phase = .closed
  /-- The difference is counted as open. -/
  difference : h.counters.active = (h.counters.opened : Int) - (h.counters.closed : Int)
  /-- These are the connections in another phase, -/
  active : h.counters.active = (h.connections.countP fun c => c.link.phase ≠ .closed : Nat)
  /-- of which there are never less than none. -/
  nonnegative : 0 ≤ h.counters.active
  /-- An end can be handled at any time, and once more with the same session, or with none again; the
  second time changes nothing at all. -/
  again : ∀ link session, ∃ next, h.step? (.ending link session) = some next ∧
    next.step? (.ending link session) = some next

/-- **The account of connections** is right at every point of every run. -/
theorem countsConnections_of_run? (run : (fresh settings mark).run? moves = some h) :
    h.CountsConnections := by
  have tallied := tallied_of_run? run
  have balanced : h.counters.active = (h.counters.opened : Int) - (h.counters.closed : Int) :=
    tallied.balanced
  have parts := List.length_eq_countP_add_countP Connection.isEnded (l := h.connections)
  have others : h.connections.countP (fun c => decide ¬c.isEnded = true) =
      h.connections.countP fun c => c.link.phase ≠ .closed := by
    refine List.countP_congr fun c _ => ?_
    simp [Connection.isEnded]
  rw [others, ← tallied.opened, ← tallied.closed] at parts
  exact {
    opened := tallied.opened
    closed := tallied.closed
    difference := balanced
    active := by omega
    nonnegative := by omega
    again := fun link session => ⟨_, rfl, congrArg some (handleEnd_handleEnd h link session)⟩ }

/-- Of the two connections of `endedRun` one has come to its end, which was handled twice. -/
theorem countsConnections_of_run?_endedRun : ∃ last,
    (fresh {} "hub").run? endedRun = some last ∧ last.counters.opened = 2 ∧
    last.counters.closed = 1 ∧ last.counters.active = 1 ∧ last.CountsConnections := by
  have ends : (((fresh {} "hub").run? endedRun).map fun last =>
      (last.counters.opened, last.counters.closed, last.counters.active)) = some (2, 1, 1) := by
    decide
  obtain ⟨last, run, ends⟩ := Option.map_eq_some_iff.mp ends
  simp only [Prod.mk.injEq] at ends
  exact ⟨last, run, ends.1, ends.2.1, ends.2.2, countsConnections_of_run? run⟩

end Hub

end StationHub
