import Mathlib.Data.List.NodupEquivFin
import StationHub.Proofs.Openings.Ends
import StationHub.Proofs.Openings.Sound

/-!
What an opening returns, whatever happens to its connection, to its rival and to the hub meanwhile.

* `Contract`: what holds when an opening returns a session or fails.
* `contract_iff`: an opening of a connection that is opened once keeps its contract exactly if its
  connection was not closed while the opening probed its rival.
-/

namespace StationHub.Hub

/-- What holds when an opening of the connection returns. With a session, that session holds the
slot of its key, and the connection is open and bound; with a failure, the connection is closed and
no slot is bound to it. -/
def Contract (h : Hub) (link : Nat) : Except Failure Nat → Prop
  | .ok session => ∃ s l, h.session? session = some s ∧ s.link = link ∧
      h.registered? s.variant s.key = some ⟨session, link⟩ ∧
      h.link? link = some l ∧ l.closed = false ∧ l.phase = .bound
  | .error _ => h.isClosed link = true ∧ ∀ variant key, h.boundTo? variant key ≠ some link

/-- The hub runs, and the connection of the opening `id` was closed while the opening probed its
rival. -/
def ClosedWhileProbing (h : Hub) (id link : Nat) : Prop :=
  h.stopping = false ∧ h.isClosed link = true ∧ ∃ session guard rival probe,
    h.task? id = some ⟨id, .openProbing link session guard rival probe⟩

/-! ### Sessions of one connection -/

/-- What is in a list once is at one place. -/
theorem eq_of_count_le_one {l : List Nat} {a i j : Nat} (few : l.count a ≤ 1)
    (at_i : l[i]? = some a) (at_j : l[j]? = some a) : i = j := by
  have once : ¬l.Duplicate a := fun twice =>
    Nat.not_lt.mpr few (List.duplicate_iff_two_le_count.mp twice)
  have ordered {i j : Nat} (at_i : l[i]? = some a) (at_j : l[j]? = some a) : ¬i < j := by
    obtain ⟨within_i, rfl⟩ := List.getElem?_eq_some_iff.mp at_i
    obtain ⟨within_j, same⟩ := List.getElem?_eq_some_iff.mp at_j
    exact fun before => once (List.duplicate_iff_exists_distinct_get.mpr
      ⟨⟨i, within_i⟩, ⟨j, within_j⟩, before, rfl, same.symm⟩)
  exact Nat.le_antisymm (Nat.not_lt.mp (ordered at_j at_i)) (Nat.not_lt.mp (ordered at_i at_j))

theorem links_getElem? {h : Hub} {i : Nat} {s : Session} (here : h.session? i = some s) :
    (h.sessions.map Session.link)[i]? = some s.link := by
  rw [List.getElem?_map]
  exact congrArg (Option.map Session.link) here

theorem session_unique {h : Hub} {i j link : Nat} {s t : Session} (few : h.dwellers link ≤ 1)
    (at_i : h.session? i = some s) (at_j : h.session? j = some t) (onI : s.link = link)
    (onJ : t.link = link) : i = j :=
  eq_of_count_le_one few (onI ▸ links_getElem? at_i) (onJ ▸ links_getElem? at_j)

theorem no_session_of_dwellers {h : Hub} {i link : Nat} {s : Session} (none : h.dwellers link = 0)
    (here : h.session? i = some s) : s.link ≠ link := by
  rintro rfl
  exact List.count_eq_zero.mp none (List.mem_of_getElem? (links_getElem? here))

/-- A connection that no session is on has no slot. -/
theorem Sound.unbound {h : Hub} (sound : h.Sound) {link : Nat} (none : h.dwellers link = 0)
    (variant : Variant) (key : Key) : h.boundTo? variant key ≠ some link := by
  intro bound
  obtain ⟨slot, there, rfl⟩ := Option.map_eq_some_iff.mp bound
  obtain ⟨s, here, -, -, on⟩ := sound.slots there
  exact no_session_of_dwellers none here on

/-- An opening that probes a rival has a session already. -/
theorem Sound.not_closedWhileProbing {h : Hub} (sound : h.Sound) {id link : Nat}
    (none : h.dwellers link = 0) : ¬h.ClosedWhileProbing id link := by
  rintro ⟨-, -, session, guard, rival, probe, found⟩
  have member := List.mem_of_find?_eq_some found
  obtain ⟨-, s, here, on⟩ := sound.fit _ member rfl
  exact no_session_of_dwellers none here on

/-! ### Returns -/

/-- A running hub registers whoever has the slot, open or not. -/
theorem contract_afterTakeover {h : Hub} {session : Nat} {s : Session} {l : Link}
    (running : h.stopping = false) (here : h.session? session = some s)
    (slot : h.registered? s.variant s.key = some ⟨session, s.link⟩)
    (there : h.link? s.link = some l) (coherent : l.Coherent) (id : Nat) (guard : Guard) :
    (h.afterTakeover id s.link session guard).Contract s.link (.ok session) ↔
      l.closed = false := by
  unfold afterTakeover
  rw [if_neg (by simp [running])]
  have now : (((h.modifyLink s.link fun l => l.enter .bound).count .resolved).endOpening id guard
      (.ok session)).link? s.link = some (l.enter .bound) := by
    show (h.modifyLink s.link fun l => l.enter .bound).link? s.link = _
    rw [link?_modifyLink, there]
    simp
  constructor
  · rintro ⟨-, l', -, -, -, at_link, open_, -⟩
    rw [now] at at_link
    cases at_link
    exact (closed_enter l .bound).symm.trans open_
  · intro open_
    exact ⟨s, _, here, rfl, slot, now, (closed_enter l .bound).trans open_,
      phase_enter_of_open coherent open_ .bound⟩

/-- An opening that returns when it has its guard has failed and leaves its connection closed. -/
theorem afterGuard_refuses {h : Hub} {id link : Nat} {target : Target} {guard : Guard}
    {result : Except Failure Nat} {l : Link} (here : h.link? link = some l)
    (coherent : l.Coherent)
    (returns : (h.afterGuard id link target guard).finished =
      h.finished ++ [(id, .opened result)]) :
    (h.afterGuard id link target guard).isClosed link = true ∧ result = .error .closed := by
  unfold afterGuard at returns ⊢
  split at returns <;> rename_i open_
  · rw [if_pos open_]
    exact ⟨open_, result_of_ended rfl returns⟩
  · rw [if_neg open_]
    split at returns <;> rename_i running
    · rw [if_pos running]
      exact ⟨isClosed_closed here coherent .shutdown,
        result_of_ended (finished_closed h link .shutdown) returns⟩
    · exact (not_returned returns).elim

/-- An opening that returns when the directory has answered keeps its contract: it makes no session
and leaves its connection closed, or its session takes the slot while the connection is open. -/
theorem afterDirectory_returns {h : Hub} {id link : Nat} {guard : Guard}
    {answer : Except Failure Identity} {result : Except Failure Nat} {l : Link}
    (here : h.link? link = some l) (coherent : l.Coherent)
    (unbound : ∀ variant key, h.boundTo? variant key ≠ some link)
    (returns : (h.afterDirectory id link guard answer).finished =
      h.finished ++ [(id, .opened result)]) :
    ((h.afterDirectory id link guard answer).isClosed link = true ∧
        (h.afterDirectory id link guard answer).sessions = h.sessions ∧
        ∃ failure, result = .error failure) ∨
      (h.afterDirectory id link guard answer).Contract link result := by
  unfold afterDirectory at returns ⊢
  cases answer with
  | error failure =>
      left
      refine ⟨isClosed_closed (h := h.count .resolutionFailed) here coherent .unidentified,
        (sameStaff_closed (h.count .resolutionFailed) link .unidentified).sessions, failure, ?_⟩
      exact result_of_ended (finished_closed (h.count .resolutionFailed) link _) returns
  | ok identity =>
      dsimp only at returns ⊢
      split at returns <;> rename_i open_
      · left
        rw [if_pos open_]
        exact ⟨open_, rfl, _, result_of_ended rfl returns⟩
      · rw [if_neg open_]
        split at returns <;> rename_i running
        · left
          rw [if_pos running]
          exact ⟨isClosed_closed here coherent .shutdown, (sameStaff_closed h link _).sessions, _,
            result_of_ended (finished_closed h link .shutdown) returns⟩
        · right
          rw [if_neg running]
          have made := session?_withSession h link l.variant identity
          have identified : (h.withSession link l.variant identity).link? link =
              some (l.identify identity) := by
            show (h.modifyLink link fun l => l.identify identity).link? link = _
            rw [link?_modifyLink, here]
            simp
          rw [afterIdentified_eq here] at returns ⊢
          rcases started : (h.withSession link l.variant identity).beginTakeover h.sessions.length
            (h.newSession link l.variant identity) with ⟨next, takeover | ⟨rival, probe⟩⟩
          · rw [started] at returns
            have adopts := beginTakeover_adopts made (unbound _ _) started
            have runs : next.stopping = false :=
              adopts.stopping.trans (Bool.eq_false_iff.mpr running)
            have opened := result_of_afterTakeover adopts.finished returns
            rw [if_neg (by simp [runs])] at opened
            rw [opened]
            refine (contract_afterTakeover runs adopts.session adopts.slot
              (adopts.link.trans identified) ?_ id guard).mpr ?_
            · exact (Link.leadsTo_identify l identity).coherent coherent
            · show l.closed = false
              simpa [isClosed, here] using open_
          · rw [started] at returns
            refine (not_returned (returns.symm.trans ?_).symm).elim
            rcases @beginTakeover_cases False _ _ _ made with
              ⟨-, next', takeover, -, -, other⟩ | ⟨next', rival', probe', quiet, -, same⟩
            · rw [started] at other
              cases other
            · rw [started] at same
              cases same
              exact (Quiet.tasks quiet).2.2

/-- The last step of an opening that probed its rival keeps the contract unless the hub runs and the
connection was closed meanwhile. -/
theorem probed_returns {h next : Hub} (sound : next.Sound) {id session rival : Nat} {guard : Guard}
    {probe : Link.Probe} {alive : Bool} {result : Except Failure Nat} {s : Session} {l : Link}
    (found : h.task? id = some ⟨id, .openProbing s.link session guard rival probe⟩)
    (at_session : h.session? session = some s) (other : rival ≠ s.link)
    (here : h.link? s.link = some l) (coherent : l.Coherent) (few : next.dwellers s.link ≤ 1)
    (concluded : ((h.detach id).concludeTakeover session rival alive).1.afterTakeover id s.link
      session guard = next)
    (returns : next.finished = h.finished ++ [(id, .opened result)]) :
    next.Contract s.link result ↔ ¬h.ClosedWhileProbing id s.link := by
  have at_detached : (h.detach id).session? session = some s := at_session
  have adopts := concludeTakeover_adopts at_detached other alive
  have still := adopts.link.trans here
  rw [← concluded] at returns
  have opened := result_of_afterTakeover adopts.finished returns
  rw [adopts.stopping] at opened
  cases stopping : h.stopping with
  | false =>
      rw [if_neg (by simp [detach, stopping])] at opened
      have runs := adopts.stopping.trans stopping
      rw [← concluded, opened,
        contract_afterTakeover runs adopts.session adopts.slot still coherent]
      constructor
      · rintro open_ ⟨-, closed, -⟩
        simp [isClosed, here, open_] at closed
      · intro notClosed
        refine Bool.eq_false_iff.mpr fun closed => notClosed ⟨stopping, ?_, _, _, _, _, found⟩
        simpa [isClosed, here] using closed
  | true =>
      rw [if_pos (by simp [detach, stopping])] at opened
      have stops := adopts.stopping.trans stopping
      have closed := isClosed_afterTakeover stops still coherent id session guard
      have vacated := vacated_afterTakeover stops adopts.session id s.link guard
      rw [concluded] at closed vacated
      rw [opened]
      refine ⟨fun _ running => ?_, fun _ => ⟨closed, fun variant key bound => ?_⟩⟩
      · have runs := running.1
        rw [stopping] at runs
        cases runs
      · -- Whoever has a slot with the connection is its only session, whose slot was let go.
        obtain ⟨slot, there, on⟩ := Option.map_eq_some_iff.mp bound
        obtain ⟨t, at_slot, rfl, rfl, isLink⟩ := sound.slots there
        have at_next : next.session? session = some s := by
          rw [← concluded, (sameStaff_afterTakeover _ id s.link session guard).session?]
          exact adopts.session
        have same := session_unique few at_slot at_next (isLink.trans on) rfl
        rw [same, at_next] at at_slot
        cases at_slot
        exact vacated bound

/-- An opening of a connection that is opened once returns. It keeps its contract exactly if its
connection was not closed while it probed its rival. -/
theorem contract_iff {settings : Settings} {mark : Mark} {moves : List Move} {h next : Hub}
    {move : Move} {id link : Nat} {l : Link} {result : Except Failure Nat}
    (run : (fresh settings mark).run? moves = some h) (moved : h.step? move = some next)
    (here : h.link? link = some l) (opens : h.opens? move = some (id, link))
    (once : (moves ++ [move]).countP (Move.opensLink link) ≤ 1)
    (returns : next.finished = h.finished ++ [(id, .opened result)]) :
    next.Contract link result ↔ ¬h.ClosedWhileProbing id link := by
  have sound := sound_of_run? run
  have sound' := step?_sound sound moved
  have coherent := sound.coherent here
  have before : h.bearers link ≤ moves.countP (Move.opensLink link) := by
    have borne := bearers_le_of_run? run link
    rwa [show (fresh settings mark).bearers link = 0 from rfl, Nat.zero_add] at borne
  have after := step?_bearers_le moved link
  rw [List.countP_append, List.countP_singleton] at once
  -- An opening that seeks its peer still is the only bearer of its connection.
  have alone : ∀ {task : Task}, h.task? id = some task → task.activity.seeks? = some link →
      h.dwellers link = 0 := by
    intro task found seeks
    have left := bearers_detach found link
    rw [if_pos seeks] at left
    have stay : (h.detach id).dwellers link = h.dwellers link := rfl
    unfold bearers at left before
    omega
  have refused : h.dwellers link = 0 → next.sessions = h.sessions → next.isClosed link = true →
      (∃ failure, result = .error failure) →
      (next.Contract link result ↔ ¬h.ClosedWhileProbing id link) := by
    rintro none same closed ⟨failure, rfl⟩
    have none' : next.dwellers link = 0 := (dwellers_congr same link).trans none
    exact ⟨fun _ => sound.not_closedWhileProbing none, fun _ => ⟨closed, sound'.unbound none'⟩⟩
  cases openingStep_of_step? moved opens with
  | begins target lock => exact (not_returned returns).elim
  | waits target lock found => exact (not_returned returns).elim
  | enters target lock guard =>
      have none : h.dwellers link = 0 := by
        have first : (if Move.opensLink link (.opening link target) = true then 1 else 0) = 1 := by
          simp [Move.opensLink]
        unfold bearers at before
        omega
      have there : ({ h.newTask.1 with lock } : Hub).link? link = some l := here
      obtain ⟨closed, failed⟩ := afterGuard_refuses there coherent returns
      exact refused none (afterGuard_staff _ _ link target guard).1 closed ⟨_, failed⟩
  | guarded target lock guard found =>
      have there : ({ h.detach id with lock } : Hub).link? link = some l := here
      obtain ⟨closed, failed⟩ := afterGuard_refuses there coherent returns
      exact refused (alone found rfl) (afterGuard_staff _ _ link target guard).1 closed ⟨_, failed⟩
  | answered target guard answer found =>
      have none := alone found rfl
      have there : (h.detach id).link? link = some l := here
      rcases afterDirectory_returns there coherent (sound.unbound none) returns with
        ⟨closed, same, failed⟩ | kept
      · exact refused none same closed failed
      · exact ⟨fun _ => sound.not_closedWhileProbing none, fun _ => kept⟩
  | probed session guard rival probe alive found =>
      obtain ⟨other, s, at_session, rfl⟩ := sound.fit _ (List.mem_of_find?_eq_some found) rfl
      refine probed_returns sound' found at_session other here coherent ?_ rfl returns
      unfold bearers at after before
      omega

/-- A run in which the second of two connections of one peer probes the first and is closed
meanwhile, until the time of the probe is over. -/
def closedRun : List Move :=
  let target : Target := ⟨.device, "/OCPP16/T/K/D1", "T", "K", "D1", "ocpp1.6"⟩
  let identity : Identity := ⟨⟨"T", "T"⟩, ⟨"D1", none, none, none⟩⟩
  [.accept .device, .opening 0 target, .directoryAnswers 0 (.ok identity),
    .accept .device, .opening 1 target, .directoryAnswers 1 (.ok identity),
    .close 1 .normal, .advance 5000]

theorem run?_closedRun : ∃ h next l, (fresh {} "hub").run? closedRun = some h ∧
    h.step? (.resume 1) = some next ∧ h.link? 1 = some l ∧ h.opens? (.resume 1) = some (1, 1) ∧
    next.finished = h.finished ++ [(1, .opened (.ok 1))] ∧
    next.isClosed 1 = true ∧ next.boundTo? .device ⟨"T", "D1"⟩ = some 1 := by
  refine ⟨((fresh {} "hub").run? closedRun).get (by decide), _, _, rfl, rfl, rfl, ?_, ?_, ?_, ?_⟩
  · decide
  · rfl
  · decide
  · decide

theorem contract_iff_closedRun : ∃ h next, (fresh {} "hub").run? closedRun = some h ∧
    h.step? (.resume 1) = some next ∧
    (next.Contract 1 (.ok 1) ↔ ¬h.ClosedWhileProbing 1 1) := by
  obtain ⟨h, next, l, run, moved, here, opens, returns, -, -⟩ := run?_closedRun
  exact ⟨h, next, run, moved, contract_iff run moved here opens (by decide) returns⟩

/-- The opening of the second connection returns a session, although the connection is closed, and
leaves the slot bound to it. -/
theorem contract_broken : ∃ h next, (fresh {} "hub").run? closedRun = some h ∧
    h.step? (.resume 1) = some next ∧
    next.finished = h.finished ++ [(1, .opened (.ok 1))] ∧ next.isClosed 1 = true ∧
    next.boundTo? .device ⟨"T", "D1"⟩ = some 1 ∧ ¬next.Contract 1 (.ok 1) := by
  obtain ⟨h, next, l, run, moved, -, -, returns, closed, bound⟩ := run?_closedRun
  refine ⟨h, next, run, moved, returns, closed, bound, ?_⟩
  rintro ⟨s, l', -, -, -, there, open_, -⟩
  rw [isClosed, there] at closed
  rw [Option.any_some, open_] at closed
  cases closed

end StationHub.Hub
